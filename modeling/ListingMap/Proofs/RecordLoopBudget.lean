import ListingMap.SourceMap.RecordLoop
import ListingMap.Proofs.AssemblyFold
import ListingMap.Proofs.DuplicateDebugLines

/-!
# The record loop keeps its budget

`Assembly.LoopState.step` runs the record loop of assembly at the widths of its words, with a
trap wherever a word operation would leave its type. This module shows that no run from the
head of a file map meets a trap, that the loop keeps within its budget of `2^20` items, and that
it ends with what `Assembly.placeAll` computes.

`LoopState.WithinBudget` is the invariant. At the head of the loop over records at most `2^20`
items are placed. Inside a record's lines the counter has yielded no more offsets than items were
placed, and the items placed with the lines still to come make at most `2^20`. The check against
an implausible range sets this up before the first line is placed; each line placed uses up one
line still to come, and a debug line past the largest word ends the record early, with fewer.
`LoopState.withinBudget_step` is the step lemma and `LoopState.WithinBudget.reaches` the run lemma.

`LoopState.step_atRecord_cons` and `LoopState.step_atLine_cons` say once what a turn does within
the budget: every word operation agrees with its reading in natural numbers, so that a turn at a
record does what `Assembly.placeRecord` does with it. From them `Assembly.reaches_placeAll` runs
the loop to its end.

Main statement: `Assembly.recordLoop_stays_within_budget`.
-/

namespace ListingMap

namespace Assembly

/-! ## Words within the budget -/

theorem lineBudget_lt_usizeSize : lineBudget < USize.size :=
  Nat.lt_of_lt_of_le (by decide) USize.le_size

theorem toNat_lineBudget_toUSize : lineBudget.toUSize.toNat = lineBudget :=
  USize.toNat_ofNat_of_lt' lineBudget_lt_usizeSize

theorem toNat_usize_of_le {α : Type} {placed : Array α} (within : placed.size ≤ lineBudget) :
    placed.usize.toNat = placed.size :=
  USize.toNat_ofNat_of_lt' (Nat.lt_of_le_of_lt within lineBudget_lt_usizeSize)

theorem toNat_budgetLeft {α : Type} {placed : Array α} (within : placed.size ≤ lineBudget) :
    (lineBudget.toUSize - placed.usize).toUInt64.toNat = lineBudget - placed.size := by
  have ordered : placed.usize ≤ lineBudget.toUSize := by
    rw [USize.le_iff_toNat_le, toNat_usize_of_le within, toNat_lineBudget_toUSize]
    exact within
  rw [USize.toNat_toUInt64, USize.toNat_sub_of_le _ _ ordered, toNat_usize_of_le within,
    toNat_lineBudget_toUSize]

theorem toNat_span {record : FileMapRecord} (ordered : record.lineBegin ≤ record.lineEnd) :
    ((record.lineEnd - record.lineBegin).toUInt64 + 1).toNat =
      record.lineEnd.toNat - record.lineBegin.toNat + 1 := by
  have small := (record.lineEnd - record.lineBegin).toNat_lt
  rw [UInt64.toNat_add, UInt32.toNat_toUInt64, UInt32.toNat_sub_of_le _ _ ordered]
  rw [UInt32.toNat_sub_of_le _ _ ordered] at small
  simp only [UInt64.toNat_one]
  omega

theorem length_lines (record : FileMapRecord) :
    record.lines.length = record.lineEnd.toNat + 1 - record.lineBegin.toNat := by
  simp [FileMapRecord.lines]

theorem add_toUInt32 (word : UInt32) (offset : Nat) :
    word + offset.toUInt32 = (word.toNat + offset).toUInt32 := by
  show word + UInt32.ofNat offset = UInt32.ofNat (word.toNat + offset)
  rw [UInt32.ofNat_add, UInt32.ofNat_toNat]

theorem toUInt32_succ (offset : Nat) : (offset + 1).toUInt32 = offset.toUInt32 + 1 :=
  UInt32.ofNat_add offset 1

namespace LoopState

/-! ## What one turn does -/

/-- A turn at a record within the budget either reports the record and moves on, as
`placeRecord` does, or enters its lines, whose number fits in the budget left; `placeRecord` then
places them from offset zero. -/
theorem step_atRecord_cons (lines : ModuleLines) (proc : String) (raised : List Diagnostic)
    (record : FileMapRecord) (records : List FileMapRecord) {placed : Array SourceMapItem}
    (within : placed.size ≤ lineBudget) :
    (∃ diagnostic, step lines proc (atRecord placed raised (record :: records)) =
        some (atRecord placed (raised ++ [diagnostic]) records) ∧
      placeRecord lines proc placed record = (placed, [diagnostic])) ∨
    (∃ path, step lines proc (atRecord placed raised (record :: records)) =
        some (atLine placed raised record path record.lines 0 records) ∧
      placed.size + record.lines.length ≤ lineBudget ∧
      placeRecord lines proc placed record =
        placeLines record path proc placed 0 record.lines.length) := by
  rw [step, placeRecord]
  cases lines.includes.find? (·.debugNum == record.debugNum.toUInt32) with
  | none => exact .inl ⟨_, rfl, rfl⟩
  | some entry =>
      by_cases inverted : record.lineEnd < record.lineBegin
      · exact .inl ⟨.invertedRange record.debugNum record.lineBegin record.lineEnd,
          by simp only [if_pos inverted], by simp only [if_pos inverted]⟩
      · have ordered : record.lineBegin ≤ record.lineEnd := UInt32.not_lt.mp inverted
        have spanFits : (record.lineEnd - record.lineBegin).toUInt64.toNat + 1 < UInt64.size := by
          have small := (record.lineEnd - record.lineBegin).toNat_lt
          have words : UInt64.size = 2 ^ 64 := rfl
          rw [UInt32.toNat_toUInt64, words]
          omega
        have budgetFits : placed.usize ≤ lineBudget.toUSize := by
          rw [USize.le_iff_toNat_le, toNat_usize_of_le within, toNat_lineBudget_toUSize]
          exact within
        have tooLong : (record.lineEnd - record.lineBegin).toUInt64 + 1 >
              (lineBudget.toUSize - placed.usize).toUInt64 ↔
            lineBudget - placed.size < record.lineEnd.toNat - record.lineBegin.toNat + 1 := by
          rw [gt_iff_lt, UInt64.lt_iff_toNat_lt, toNat_span ordered, toNat_budgetLeft within]
        have count : record.lines.length = record.lineEnd.toNat - record.lineBegin.toNat + 1 := by
          have ordered := UInt32.le_iff_toNat_le.mp ordered
          rw [length_lines]
          omega
        simp only [if_neg inverted, if_pos ordered, if_pos spanFits, if_pos budgetFits]
        by_cases exceeds : lineBudget - placed.size < record.lineEnd.toNat - record.lineBegin.toNat + 1
        · exact .inl ⟨_, by rw [if_pos (tooLong.mpr exceeds)], by rw [if_pos exceeds]⟩
        · refine .inr ⟨entry.sourceFilename, by rw [if_neg (mt tooLong.mp exceeds)], ?_, ?_⟩
          · omega
          · rw [if_neg exceeds, count]

/-- A turn at a line with the counter below the budget yields the counter's value and places the
line at the debug line it gives, unless that is past the largest word. -/
theorem step_atLine_cons (lines : ModuleLines) (proc : String) {placed : Array SourceMapItem}
    {raised : List Diagnostic} {record : FileMapRecord} {path : String} {sourceLine : UInt32}
    {rest : List UInt32} {offset : Nat} {records : List FileMapRecord}
    (counterBound : offset < lineBudget) :
    step lines proc (atLine placed raised record path (sourceLine :: rest) offset.toUInt32 records) =
      some (if record.sourceNum.toNat + offset < wordRange then
          atLine (placed.push ⟨(record.sourceNum.toNat + offset).toUInt32, sourceLine, path, proc⟩)
            raised record path rest (offset + 1).toUInt32 records
        else
          atRecord placed
            (raised ++ [.debugLineOverflow record.debugNum record.sourceNum sourceLine]) records) := by
  have exact : offset.toUInt32.toNat = offset :=
    UInt32.toNat_ofNat_of_lt' (Nat.lt_trans counterBound (by decide))
  have stepsOn : offset.toUInt32.toNat + 1 < UInt32.size := by
    rw [exact]
    exact Nat.lt_trans (Nat.add_lt_add_right counterBound 1) (by decide)
  have words : wordRange = UInt32.size := rfl
  rw [step, if_pos stepsOn, exact, words, add_toUInt32, toUInt32_succ]

/-! ## The invariant -/

variable {lines : ModuleLines} {proc : String}

/-- What holds at every state the loop reaches from the head of a file map. At the head of the
loop over records and past its end, at most `2^20` items are placed. Inside a record's lines the
counter has yielded no more offsets than items were placed, and the items placed with the lines
still to come make at most `2^20`. No trap is within the budget. -/
def WithinBudget : LoopState → Prop
  | atRecord placed _ _ => placed.size ≤ lineBudget
  | atLine placed _ _ _ lines counter _ =>
      counter.toNat ≤ placed.size ∧ placed.size + lines.length ≤ lineBudget
  | finished placed _ => placed.size ≤ lineBudget
  | trapped _ => False

/-- One turn keeps the loop within its budget. -/
theorem withinBudget_step {state next : LoopState} (within : state.WithinBudget)
    (stepped : step lines proc state = some next) : next.WithinBudget := by
  cases state with
  | atRecord placed raised records =>
      cases records with
      | nil =>
          cases stepped
          exact within
      | cons record records =>
          rcases step_atRecord_cons lines proc raised record records within with
            ⟨_, reported, _⟩ | ⟨_, entered, fits, _⟩
          · rw [reported] at stepped
            cases stepped
            exact within
          · rw [entered] at stepped
            cases stepped
            exact ⟨Nat.zero_le _, fits⟩
  | atLine placed raised record path lines counter records =>
      obtain ⟨counted, fits⟩ := within
      cases lines with
      | nil =>
          cases stepped
          show placed.size ≤ lineBudget
          simpa using fits
      | cons sourceLine rest =>
          have below : counter.toNat < lineBudget := by
            simp only [List.length_cons] at fits
            omega
          rw [← UInt32.ofNat_toNat (x := counter)] at stepped
          rw [step_atLine_cons lines proc below] at stepped
          split at stepped
          · cases stepped
            have exact : (counter.toNat + 1).toUInt32.toNat = counter.toNat + 1 :=
              UInt32.toNat_ofNat_of_lt' (Nat.lt_trans (Nat.add_lt_add_right below 1) (by decide))
            simp only [List.length_cons] at fits
            refine ⟨?_, ?_⟩
            · rw [exact, Array.size_push]
              omega
            · rw [Array.size_push]
              omega
          · cases stepped
            simp only [WithinBudget, List.length_cons] at fits ⊢
            omega
  | finished placed raised => cases stepped
  | trapped trap => cases stepped

/-- Every state reached from a state within the budget is within the budget. -/
theorem WithinBudget.reaches {state next : LoopState} (within : state.WithinBudget)
    (reached : Reaches lines proc state next) : next.WithinBudget := by
  induction reached with
  | refl => exact within
  | tail _ stepped kept => exact withinBudget_step kept stepped

end LoopState

/-! ## Running the loop to its end -/

open LoopState

variable (lines : ModuleLines) (proc : String)

/-- The lines of a record from `offset` on run through the loop over lines as `placeLines` places
them, as long as the counter stays within the budget. -/
theorem reaches_placeLines (record : FileMapRecord) (path : String) (raised : List Diagnostic)
    (records : List FileMapRecord) :
    ∀ (placed : Array SourceMapItem) (offset remaining : Nat), offset + remaining ≤ lineBudget →
      Reaches lines proc
        (atLine placed raised record path
          ((List.range' (record.lineBegin.toNat + offset) remaining).map Nat.toUInt32)
          offset.toUInt32 records)
        (atRecord (placeLines record path proc placed offset remaining).1
          (raised ++ (placeLines record path proc placed offset remaining).2) records)
  | placed, offset, 0, _ =>
      Relation.ReflTransGen.single (by simp [step, placeLines])
  | placed, offset, remaining + 1, within => by
      have stepped : step lines proc (atLine placed raised record path
          ((record.lineBegin.toNat + offset).toUInt32 ::
            (List.range' (record.lineBegin.toNat + offset + 1) remaining).map Nat.toUInt32)
          offset.toUInt32 records) = _ :=
        step_atLine_cons lines proc (show offset < lineBudget by omega)
      rw [List.range'_succ, List.map_cons]
      by_cases inRange : record.sourceNum.toNat + offset < wordRange
      · rw [if_pos inRange] at stepped
        have next := reaches_placeLines record path raised records
          (placed.push ⟨(record.sourceNum.toNat + offset).toUInt32,
            (record.lineBegin.toNat + offset).toUInt32, path, proc⟩) (offset + 1) remaining
          (by omega)
        rw [← Nat.add_assoc] at next
        simp only [placeLines, if_pos inRange]
        exact Relation.ReflTransGen.head stepped next
      · rw [if_neg inRange] at stepped
        simp only [placeLines, if_neg inRange]
        exact Relation.ReflTransGen.single stepped

/-- A turn of the loop over records, its lines included, does what `placeRecord` does. -/
theorem reaches_placeRecord {placed : Array SourceMapItem} (within : placed.size ≤ lineBudget)
    (raised : List Diagnostic) (record : FileMapRecord) (records : List FileMapRecord) :
    Reaches lines proc (atRecord placed raised (record :: records))
      (atRecord (placeRecord lines proc placed record).1
        (raised ++ (placeRecord lines proc placed record).2) records) := by
  rcases step_atRecord_cons lines proc raised record records within with
    ⟨diagnostic, reported, placedAs⟩ | ⟨path, entered, fits, placedAs⟩
  · rw [placedAs]
    exact Relation.ReflTransGen.single reported
  · have fromZero : record.lines = (List.range' (record.lineBegin.toNat + 0)
        record.lines.length).map Nat.toUInt32 := by
      simp [FileMapRecord.lines]
    have run := reaches_placeLines lines proc record path raised records
      placed 0 record.lines.length (by omega)
    rw [← fromZero] at run
    rw [placedAs]
    exact Relation.ReflTransGen.head entered run

/-- From any items placed within the budget, with the diagnostics raised so far kept latest first,
the loop over records runs to its end with what the walk of `placeAll` computes. -/
theorem reaches_foldl_placeRecord :
    ∀ (records : List FileMapRecord) (placed : Array SourceMapItem) (raised : List Diagnostic),
      placed.size ≤ lineBudget →
        Reaches lines proc (atRecord placed raised.reverse records)
          (finished
            (records.foldl (fun (placed, raised) record =>
                let (placed, more) := placeRecord lines proc placed record
                (placed, more.reverse ++ raised)) (placed, raised)).1
            (records.foldl (fun (placed, raised) record =>
                let (placed, more) := placeRecord lines proc placed record
                (placed, more.reverse ++ raised)) (placed, raised)).2.reverse)
  | [], placed, raised, _ => Relation.ReflTransGen.single rfl
  | record :: records, placed, raised, within => by
      have turn := reaches_placeRecord lines proc within raised.reverse record records
      have kept : (placeRecord lines proc placed record).1.size ≤ lineBudget :=
        (show (atRecord placed raised.reverse (record :: records)).WithinBudget from within).reaches
          turn
      have rest := reaches_foldl_placeRecord records (placeRecord lines proc placed record).1
        ((placeRecord lines proc placed record).2.reverse ++ raised) kept
      rw [List.reverse_append, List.reverse_reverse] at rest
      exact turn.trans rest

/-- The loop over a file map runs from its head to its end with the items and diagnostics of
`placeAll`. -/
theorem reaches_placeAll (records : List FileMapRecord) :
    Reaches lines proc (atRecord #[] [] records)
      (finished (placeAll lines proc records).1 (placeAll lines proc records).2) :=
  reaches_foldl_placeRecord lines proc records #[] [] (Nat.zero_le _)

/-! ## The budget of the whole walk -/

theorem length_build_le (rcode : String) (items : List SourceMapItem) :
    (SourceMap.build rcode items).value.items.length ≤ items.length := by
  obtain ⟨dropped, perm, -⟩ := SourceMap.exists_dropped_build rcode items
  rw [perm.length_eq, List.length_append]
  exact Nat.le_add_right _ _

/-- The record loop stays within its budget and none of its word operations leaves its type.
Every state the loop reaches from the head of a file map is no trap: the budget left, a record's
line difference, its span and the offset counter never leave their words. At the head of the loop
over records, and inside a record's lines, fewer than `2^20` items are placed, with at most
`2^20` at the head; where the counter is about to yield, its value is at most `2^20 - 1`. The loop
runs to its end with the items and diagnostics of `placeAll`, at most `2^20` items, and the
assembled map holds at most `2^20` items. -/
theorem recordLoop_stays_within_budget (rcode : String) (fileMap : List FileMapRecord)
    (lines : ModuleLines) :
    (∀ state, Reaches lines (procName rcode lines) (atRecord #[] [] fileMap) state →
      (∀ trap, state ≠ trapped trap) ∧
      (∀ placed raised records, state = atRecord placed raised records →
        placed.size ≤ lineBudget) ∧
      (∀ placed raised record path sourceLine rest counter records,
        state = atLine placed raised record path (sourceLine :: rest) counter records →
          placed.size < lineBudget ∧ counter.toNat ≤ lineBudget - 1)) ∧
    Reaches lines (procName rcode lines) (atRecord #[] [] fileMap)
      (finished (placeAll lines (procName rcode lines) fileMap).1
        (placeAll lines (procName rcode lines) fileMap).2) ∧
    (placeAll lines (procName rcode lines) fileMap).1.size ≤ lineBudget ∧
    (SourceMap.assemble rcode fileMap lines).value.items.length ≤ lineBudget := by
  have start : (atRecord #[] [] fileMap).WithinBudget := Nat.zero_le _
  have ended := reaches_placeAll lines (procName rcode lines) fileMap
  have placedWithin : (placeAll lines (procName rcode lines) fileMap).1.size ≤ lineBudget :=
    start.reaches ended
  refine ⟨fun state reached => ?_, ended, placedWithin, ?_⟩
  · have within := start.reaches reached
    refine ⟨?_, ?_, ?_⟩
    · rintro trap rfl
      exact within
    · rintro placed raised records rfl
      exact within
    · rintro placed raised record path sourceLine rest counter records rfl
      obtain ⟨counted, fits⟩ := within
      simp only [List.length_cons] at fits
      omega
  · calc (SourceMap.assemble rcode fileMap lines).value.items.length
        ≤ (placeAll lines (procName rcode lines) fileMap).1.toList.length :=
          length_build_le rcode _
      _ ≤ lineBudget := by simpa using placedWithin

end Assembly

end ListingMap
