import Mathlib.Logic.Relation
import ListingMap.SourceMap.Assemble

/-!
# The record loop, turn by turn

`SourceMap.assemble` reckons in natural numbers. The loop it stands for reckons in words: the
items placed are counted in a machine word, a record's line count is the difference of two
32-bit words, its span one more than that in 64 bits, and the lines of a record are zipped with
an offset counter of 32 bits. A build with overflow checks stops the program at the first of
these operations whose result would leave its type.

This module states that loop as a transition system over `Assembly.LoopState`, at the widths of
its words. A state is the head of the loop over records, the head of the loop over one record's
lines, the end of the walk, or a trap, which names the operation that would have left its type.
`LoopState.step` takes one turn of either loop and `Assembly.Reaches` is any number of turns.
-/

namespace ListingMap

namespace FileMapRecord

/-- The source lines of a record, first to last; none when the last precedes the first. -/
def lines (record : FileMapRecord) : List UInt32 :=
  (List.range' record.lineBegin.toNat (record.lineEnd.toNat + 1 - record.lineBegin.toNat)).map
    Nat.toUInt32

end FileMapRecord

namespace Assembly

/-- A word operation of the record loop whose result would leave its type. -/
inductive Trap where
  /-- The budget less the items placed, below zero. -/
  | budgetLeft
  /-- A record's last line less its first, below zero. -/
  | lineDifference
  /-- The span, one more than that difference, past the largest 64-bit word. -/
  | spanLength
  /-- The offset counter stepping on past the largest 32-bit word. -/
  | offsetStep
deriving Repr, DecidableEq

/-- Where the record loop stands, with the items placed and the diagnostics raised so far. -/
inductive LoopState where
  /-- At the head of the loop over records, `records` still to walk. -/
  | atRecord (placed : Array SourceMapItem) (raised : List Diagnostic)
      (records : List FileMapRecord)
  /-- At the head of the loop over the lines of `record`, of the include at `path`: `lines` are
  the source lines still to come and `counter` the offset the counter yields next. -/
  | atLine (placed : Array SourceMapItem) (raised : List Diagnostic) (record : FileMapRecord)
      (path : String) (lines : List UInt32) (counter : UInt32) (records : List FileMapRecord)
  /-- Past the last record. -/
  | finished (placed : Array SourceMapItem) (raised : List Diagnostic)
  /-- Stopped at an operation whose result would leave its type. -/
  | trapped (trap : Trap)

namespace LoopState

/-- One turn of the record loop, or `none` once the walk has finished or stopped at a trap.

A record is resolved, checked for an inverted range and measured against the budget left; then
its lines are zipped with the offset counter, which yields its value and steps on. Each checked
operation guards what follows it and traps where its result would leave its type. -/
def step (lines : ModuleLines) (proc : String) : LoopState → Option LoopState
  | atRecord placed raised [] => some (finished placed raised)
  | atRecord placed raised (record :: records) =>
      some <| match lines.includes.find? (·.debugNum == record.debugNum.toUInt32) with
        | none =>
            atRecord placed (raised ++ [.unresolvedRecord record.debugNum record.sourceNum]) records
        | some entry =>
            if record.lineEnd < record.lineBegin then
              atRecord placed
                (raised ++ [.invertedRange record.debugNum record.lineBegin record.lineEnd]) records
            else if record.lineBegin ≤ record.lineEnd then
              let difference := record.lineEnd - record.lineBegin
              if difference.toUInt64.toNat + 1 < UInt64.size then
                let span := difference.toUInt64 + 1
                if placed.usize ≤ lineBudget.toUSize then
                  let remaining := (lineBudget.toUSize - placed.usize).toUInt64
                  if span > remaining then
                    atRecord placed
                      (raised ++ [.implausibleRange record.debugNum record.lineBegin record.lineEnd])
                      records
                  else
                    atLine placed raised record entry.sourceFilename record.lines 0 records
                else trapped .budgetLeft
              else trapped .spanLength
            else trapped .lineDifference
  | atLine placed raised _ _ [] _ records => some (atRecord placed raised records)
  | atLine placed raised record path (sourceLine :: lines) counter records =>
      some <| if counter.toNat + 1 < UInt32.size then
          if record.sourceNum.toNat + counter.toNat < UInt32.size then
            atLine (placed.push ⟨record.sourceNum + counter, sourceLine, path, proc⟩) raised record
              path lines (counter + 1) records
          else
            atRecord placed
              (raised ++ [.debugLineOverflow record.debugNum record.sourceNum sourceLine]) records
        else trapped .offsetStep
  | finished _ _ => none
  | trapped _ => none

end LoopState

/-- The states the record loop passes through from `state` on, `state` itself included. -/
def Reaches (lines : ModuleLines) (proc : String) : LoopState → LoopState → Prop :=
  Relation.ReflTransGen fun state next => LoopState.step lines proc state = some next

end Assembly

end ListingMap
