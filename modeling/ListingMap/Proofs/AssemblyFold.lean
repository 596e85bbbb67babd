import Mathlib
import ListingMap.SourceMap.Assemble

/-!
# Assembly as a fold over the file map

`SourceMap.assemble` walks the file map with an array of placed items. It keeps its diagnostics
latest first and checks the line budget in natural numbers. It places a record's lines one at a
time until a debug line would leave the word range. This module states the same walk as a plain
fold, `Assembly.referenceFold`. A record resolves to the first include with its debug number. The
budget is compared in the integers, and the number of lines placed is given in closed form, as
the smaller of the span and the debug lines left in the word range. The diagnostics are appended
in the order they are raised.

Main statement: `SourceMap.assemble_eq_referenceFold`. The assembled map is the source map built
from the fold's items, and its diagnostics are the fold's followed by those of the build.

The two walks agree record by record (`Assembly.placeRecord_eq`) as long as at most `2^20` items
are placed. The reference fold never places more (`Assembly.length_referenceFold_le`), since a
record is placed only when its whole span fits in what is left of the budget; so neither does
assembly (`Assembly.size_placeAll_le`).
-/

namespace ListingMap

namespace Assembly

/-! ## The reference fold -/

/-- The item for the line `offset` lines after a record's first: debug line `sourceNum + offset`
shows source line `lineBegin + offset`. -/
def recordItem (record : FileMapRecord) (path proc : String) (offset : Nat) : SourceMapItem :=
  ⟨(record.sourceNum.toNat + offset).toUInt32, (record.lineBegin.toNat + offset).toUInt32, path,
    proc⟩

/-- What the reference fold does with a record, after the items placed so far: the items it
appends and the diagnostics it raises. -/
def recordOutcome (lines : ModuleLines) (proc : String) (items : List SourceMapItem)
    (record : FileMapRecord) : List SourceMapItem × List Diagnostic :=
  match lines.includes.find? (·.debugNum == record.debugNum.toUInt32) with
  | none => ([], [.unresolvedRecord record.debugNum record.sourceNum])
  | some entry =>
      if record.lineEnd < record.lineBegin then
        ([], [.invertedRange record.debugNum record.lineBegin record.lineEnd])
      else
        let span : Int := record.lineEnd.toNat - record.lineBegin.toNat + 1
        if span > 2 ^ 20 - items.length then
          ([], [.implausibleRange record.debugNum record.lineBegin record.lineEnd])
        else
          let count : Int := min span (2 ^ 32 - record.sourceNum.toNat)
          ((List.range count.toNat).map (recordItem record entry.sourceFilename proc),
            if count < span then
              [.debugLineOverflow record.debugNum record.sourceNum
                (record.lineBegin.toNat + count.toNat).toUInt32]
            else [])

/-- One step of the reference fold: the record's items and diagnostics go after those so far. -/
def referenceStep (lines : ModuleLines) (proc : String)
    (state : List SourceMapItem × List Diagnostic) (record : FileMapRecord) :
    List SourceMapItem × List Diagnostic :=
  (state.1 ++ (recordOutcome lines proc state.1 record).1,
    state.2 ++ (recordOutcome lines proc state.1 record).2)

/-- The reference fold over the file map, from no items and no diagnostics. -/
def referenceFold (lines : ModuleLines) (proc : String) (records : List FileMapRecord) :
    List SourceMapItem × List Diagnostic :=
  records.foldl (referenceStep lines proc) ([], [])

/-! ## The budget -/

theorem length_recordOutcome_le (lines : ModuleLines) (proc : String)
    {items : List SourceMapItem} (withinBudget : items.length ≤ lineBudget)
    (record : FileMapRecord) :
    items.length + (recordOutcome lines proc items record).1.length ≤ lineBudget := by
  unfold recordOutcome
  split
  case h_1 => simpa using withinBudget
  case h_2 entry _ =>
    by_cases inverted : record.lineEnd < record.lineBegin
    · simpa [inverted] using withinBudget
    · have budget : (lineBudget : Int) = 2 ^ 20 := rfl
      simp only [inverted, if_false]
      split
      case isTrue => simpa using withinBudget
      case isFalse fits =>
        simp only [List.length_map, List.length_range]
        omega

theorem length_referenceStep_le (lines : ModuleLines) (proc : String)
    {state : List SourceMapItem × List Diagnostic} (withinBudget : state.1.length ≤ lineBudget)
    (record : FileMapRecord) :
    (referenceStep lines proc state record).1.length ≤ lineBudget := by
  rw [referenceStep, List.length_append]
  exact length_recordOutcome_le lines proc withinBudget record

/-- The reference fold places at most `2^20` items. -/
theorem length_referenceFold_le (lines : ModuleLines) (proc : String)
    (records : List FileMapRecord) :
    (referenceFold lines proc records).1.length ≤ lineBudget := by
  suffices kept : ∀ (records : List FileMapRecord) (state : List SourceMapItem × List Diagnostic),
      state.1.length ≤ lineBudget →
        (records.foldl (referenceStep lines proc) state).1.length ≤ lineBudget from
    kept records ([], []) (Nat.zero_le _)
  intro records
  induction records with
  | nil => exact fun state withinBudget => withinBudget
  | cons record rest inductionHypothesis =>
      intro state withinBudget
      exact inductionHypothesis _ (length_referenceStep_le lines proc withinBudget record)

/-! ## Placing a record's lines -/

/-- How many of a record's lines, `remaining` of them from `offset` on, have a debug line inside
the word range. -/
def fitting (record : FileMapRecord) (offset remaining : Nat) : Nat :=
  min remaining (wordRange - (record.sourceNum.toNat + offset))

/-- Placing lines line by line appends the lines that fit, in order, and reports the first line
that does not, if any. -/
theorem placeLines_eq (record : FileMapRecord) (path proc : String) :
    ∀ (placed : Array SourceMapItem) (offset remaining : Nat),
      placeLines record path proc placed offset remaining =
        ((placed.toList ++ (List.range' offset (fitting record offset remaining)).map
            (recordItem record path proc)).toArray,
          if fitting record offset remaining < remaining then
            [.debugLineOverflow record.debugNum record.sourceNum
              (record.lineBegin.toNat + offset + fitting record offset remaining).toUInt32]
          else [])
  | placed, offset, 0 => by simp [placeLines, fitting]
  | placed, offset, remaining + 1 => by
      by_cases inRange : record.sourceNum.toNat + offset < wordRange
      · have fits : fitting record offset (remaining + 1) =
            fitting record (offset + 1) remaining + 1 := by
          simp only [fitting]
          omega
        have line : record.lineBegin.toNat + (offset + 1) + fitting record (offset + 1) remaining =
            record.lineBegin.toNat + offset + (fitting record (offset + 1) remaining + 1) := by
          omega
        simp only [placeLines, if_pos inRange]
        rw [placeLines_eq, fits, List.range'_succ, line]
        simp [recordItem]
      · have none : fitting record offset (remaining + 1) = 0 := by
          simp only [fitting]
          omega
        simp only [placeLines, if_neg inRange]
        simp [none]

/-- While the budget holds, placing a record appends the items the reference fold appends and
raises the diagnostics it raises. -/
theorem placeRecord_eq (lines : ModuleLines) (proc : String) {placed : Array SourceMapItem}
    (withinBudget : placed.size ≤ lineBudget) (record : FileMapRecord) :
    placeRecord lines proc placed record =
      ((placed.toList ++ (recordOutcome lines proc placed.toList record).1).toArray,
        (recordOutcome lines proc placed.toList record).2) := by
  unfold placeRecord recordOutcome
  cases lines.includes.find? (·.debugNum == record.debugNum.toUInt32) with
  | none => simp
  | some entry =>
      by_cases inverted : record.lineEnd < record.lineBegin
      · simp [inverted]
      · have ordered : record.lineBegin.toNat ≤ record.lineEnd.toNat := by
          simpa [UInt32.lt_iff_toNat_lt] using inverted
        have budget : (lineBudget : Int) = 2 ^ 20 := rfl
        have words : (wordRange : Int) = 2 ^ 32 := rfl
        have sourceBound := record.sourceNum.toNat_lt
        simp only [inverted, if_false]
        by_cases overBudget : lineBudget - placed.size < record.lineEnd.toNat - record.lineBegin.toNat + 1
        · have overInt : (record.lineEnd.toNat : Int) - record.lineBegin.toNat + 1 >
              2 ^ 20 - placed.toList.length := by
            rw [Array.length_toList]
            omega
          rw [if_pos overBudget, if_pos overInt]
          simp
        · have fitsInt : ¬(record.lineEnd.toNat : Int) - record.lineBegin.toNat + 1 >
              2 ^ 20 - placed.toList.length := by
            rw [Array.length_toList]
            omega
          have count : fitting record 0 (record.lineEnd.toNat - record.lineBegin.toNat + 1) =
              (min ((record.lineEnd.toNat : Int) - record.lineBegin.toNat + 1)
                (2 ^ 32 - record.sourceNum.toNat)).toNat := by
            simp only [fitting]
            omega
          have cut : (min ((record.lineEnd.toNat : Int) - record.lineBegin.toNat + 1)
                (2 ^ 32 - record.sourceNum.toNat)).toNat <
                record.lineEnd.toNat - record.lineBegin.toNat + 1 ↔
              min ((record.lineEnd.toNat : Int) - record.lineBegin.toNat + 1)
                (2 ^ 32 - record.sourceNum.toNat) <
                (record.lineEnd.toNat : Int) - record.lineBegin.toNat + 1 := by
            omega
          rw [if_neg overBudget, if_neg fitsInt, placeLines_eq, count, List.range_eq_range']
          simp only [cut, Nat.add_zero]

/-! ## The whole walk -/

/-- From any items placed within the budget, and the diagnostics raised so far kept latest
first, the walk over the file map follows the reference fold. -/
theorem foldl_placeRecord (lines : ModuleLines) (proc : String) :
    ∀ (records : List FileMapRecord) (items : List SourceMapItem) (raised : List Diagnostic),
      items.length ≤ lineBudget →
        records.foldl (fun (placed, raised) record =>
            let (placed, more) := placeRecord lines proc placed record
            (placed, more.reverse ++ raised))
          (items.toArray, raised.reverse) =
        ((records.foldl (referenceStep lines proc) (items, raised)).1.toArray,
          (records.foldl (referenceStep lines proc) (items, raised)).2.reverse)
  | [], _, _, _ => rfl
  | record :: rest, items, raised, withinBudget => by
      have placedSize : items.toArray.size ≤ lineBudget := by simpa using withinBudget
      have nextBudget : (items ++ (recordOutcome lines proc items record).1).length ≤ lineBudget := by
        rw [List.length_append]
        exact length_recordOutcome_le lines proc withinBudget record
      rw [List.foldl_cons, List.foldl_cons]
      simp only [placeRecord_eq lines proc placedSize, ← List.reverse_append]
      exact foldl_placeRecord lines proc rest _ _ nextBudget

/-- The walk over the file map places the reference fold's items and raises its diagnostics. -/
theorem placeAll_eq (lines : ModuleLines) (proc : String) (records : List FileMapRecord) :
    placeAll lines proc records =
      ((referenceFold lines proc records).1.toArray, (referenceFold lines proc records).2) := by
  have walk := foldl_placeRecord lines proc records [] [] (Nat.zero_le _)
  simp only [placeAll]
  rw [show ((#[], []) : Array SourceMapItem × List Diagnostic) =
    (([] : List SourceMapItem).toArray, ([] : List Diagnostic).reverse) from rfl, walk]
  simp [referenceFold]

/-- Assembly never places more than `2^20` items. -/
theorem size_placeAll_le (lines : ModuleLines) (proc : String) (records : List FileMapRecord) :
    (placeAll lines proc records).1.size ≤ lineBudget := by
  rw [placeAll_eq]
  simpa using length_referenceFold_le lines proc records

end Assembly

/-- Assembly is the reference fold over the file map, followed by building the source map:
the map is built from the fold's items, and the diagnostics are the fold's, then the build's. -/
theorem SourceMap.assemble_eq_referenceFold (rcode : String) (fileMap : List FileMapRecord)
    (lines : ModuleLines) :
    SourceMap.assemble rcode fileMap lines =
      let folded := Assembly.referenceFold lines (Assembly.procName rcode lines) fileMap
      let map := SourceMap.build rcode folded.1
      ⟨map.value, folded.2 ++ map.diagnostics⟩ := by
  simp only [SourceMap.assemble, Assembly.placeAll_eq, List.toList_toArray]

end ListingMap
