import Mathlib.Data.List.Forall2
import ListingMap.Proofs.PositionRoundTrip

/-!
# One item per debug line

`SourceMap.build` sorts its items stably by the item order and keeps, of each debug line, the
item sorted first; every other item of that line is reported as a `duplicateDebugLine`
diagnostic. This module describes that choice through the input list alone
(`SourceMap.build_keeps_least_per_debugLine`):

* the kept items are strictly increasing in debug line and show exactly the debug lines of the
  input;
* the item kept for a debug line is least in the item order among the input's items on that
  line, and of the items equal to it in that order it is the first one of the input;
* every other item of the input is reported once; the reports follow the sorted order of the
  dropped items, and each names the kept source line, which is never greater than the dropped
  one.

`KeepFirstSplit` says how the pass that keeps first items divides what it reads into items kept
and items reported. `KeepFirstSplit.keep` and `KeepFirstSplit.drop` are the pass's two branches
and `SourceMap.keepFirst_split` the whole pass, by induction on the sorted list. Stability of the
sort enters through `SourceMap.filter_mergeSort_compare_eq`: the items equal to any given one
stand in the sorted list as they stood in the input.
-/

namespace ListingMap

open Std

/-- When the first match of `wide` satisfies the narrower test `narrow`, it is also the first
match of `narrow`. -/
theorem find?_eq_of_find?_eq {α : Type} {narrow wide : α → Bool} {items : List α} {found : α}
    (first : items.find? wide = some found) (hits : narrow found = true)
    (narrower : ∀ item, narrow item = true → wide item = true) :
    items.find? narrow = some found := by
  obtain ⟨-, before, after, rfl, missed⟩ := List.find?_eq_some_iff_append.mp first
  rw [List.find?_append, List.find?_eq_none.mpr, List.find?_cons_of_pos hits]
  · rfl
  · intro item mem narrowHits
    simpa [narrower item narrowHits] using missed item mem

theorem exists_of_forall₂_of_mem {α β : Type} {R : α → β → Prop} {left : List α}
    {right : List β} (related : List.Forall₂ R left right) {a : α} (mem : a ∈ left) :
    ∃ b, R a b := by
  induction related with
  | nil => exact absurd mem List.not_mem_nil
  | cons head _ inductionHypothesis =>
      rcases List.mem_cons.mp mem with rfl | later
      · exact ⟨_, head⟩
      · exact inductionHypothesis later

namespace SourceMap

/-! ## The pass that keeps first items -/

/-- How one pass of `keepFirst` divides the items `rest` it reads after `last?`, the item it kept
last if any: the items `chosen` are kept and the items `skipped` are reported by `reports`. Each
kept item is the first of its debug line from `last?` on, and each report names an item kept on
the same debug line, whose source line is no greater. -/
structure KeepFirstSplit (last? : Option SourceMapItem) (rest chosen skipped : List SourceMapItem)
    (reports : List Diagnostic) : Prop where
  chosen_sublist : chosen.Sublist rest
  skipped_sublist : skipped.Sublist rest
  perm : (chosen ++ skipped).Perm rest
  first : ∀ item ∈ chosen,
    (last?.toList ++ rest).find? (·.debugLine == item.debugLine) = some item
  reported : List.Forall₂ (fun item report => ∃ keeper ∈ last?.toList ++ chosen,
      keeper.debugLine = item.debugLine ∧ keeper.sourceLine ≤ item.sourceLine ∧
        report = .duplicateDebugLine item.debugLine keeper.sourceLine item.sourceLine)
    skipped reports

namespace KeepFirstSplit

variable {rest chosen skipped : List SourceMapItem} {reports : List Diagnostic}

/-- Nothing read, nothing kept or reported. -/
theorem nil (last? : Option SourceMapItem) : KeepFirstSplit last? [] [] [] [] where
  chosen_sublist := .slnil
  skipped_sublist := .slnil
  perm := .nil
  first := by simp
  reported := .nil

/-- Keeping an item on a later debug line than the item kept last. -/
theorem keep {last? : Option SourceMapItem} {item : SourceMapItem}
    (divided : KeepFirstSplit (some item) rest chosen skipped reports)
    (before : ∀ last ∈ last?, last.debugLine < item.debugLine)
    (sorted : ∀ later ∈ rest, item.debugLine ≤ later.debugLine) :
    KeepFirstSplit last? (item :: rest) (item :: chosen) skipped reports where
  chosen_sublist := divided.chosen_sublist.cons_cons item
  skipped_sublist := divided.skipped_sublist.cons item
  perm := divided.perm.cons item
  first := by
    -- the item kept last lies below every debug line read from now on, so no search stops at it
    have pastLast : ∀ line, item.debugLine ≤ line →
        (last?.toList ++ item :: rest).find? (·.debugLine == line) =
          (item :: rest).find? (·.debugLine == line) := by
      intro line above
      cases last? with
      | none => rfl
      | some last =>
          have below : last.debugLine ≠ line := ne_of_lt (lt_of_lt_of_le (before last rfl) above)
          exact List.find?_cons_of_neg (by simpa using below)
    intro kept mem
    rcases List.mem_cons.mp mem with rfl | later
    · rw [pastLast _ (UInt32.le_refl _)]
      exact List.find?_cons_of_pos (by simp)
    · rw [pastLast _ (sorted kept (divided.chosen_sublist.subset later))]
      exact divided.first kept later
  reported := divided.reported.imp fun _ _ ⟨keeper, mem, facts⟩ =>
    ⟨keeper, List.mem_append_right _ mem, facts⟩

/-- Reporting an item on the debug line of the item kept last. -/
theorem drop {last item : SourceMapItem}
    (divided : KeepFirstSplit (some last) rest chosen skipped reports)
    (sameLine : last.debugLine = item.debugLine) (ordered : SourceMapItem.le last item) :
    KeepFirstSplit (some last) (item :: rest) chosen (item :: skipped)
      (.duplicateDebugLine item.debugLine last.sourceLine item.sourceLine :: reports) where
  chosen_sublist := divided.chosen_sublist.cons item
  skipped_sublist := divided.skipped_sublist.cons_cons item
  perm := List.perm_middle.trans (divided.perm.cons item)
  first := by
    intro kept mem
    have skipDropped : (last :: item :: rest).find? (·.debugLine == kept.debugLine) =
        (last :: rest).find? (·.debugLine == kept.debugLine) := by
      by_cases onLast : last.debugLine = kept.debugLine
      · simp [onLast]
      · simp [onLast, ← sameLine]
    exact skipDropped.trans (divided.first kept mem)
  reported := .cons ⟨last, List.mem_cons_self, sameLine,
    SourceMapItem.sourceLine_le_of_le ordered sameLine, rfl⟩ divided.reported

end KeepFirstSplit

/-- The whole pass over a list sorted by the item order, after a kept item that comes no later
than anything in it. -/
theorem keepFirst_split (kept : Array SourceMapItem) (dropped : List Diagnostic)
    (rest : List SourceMapItem) (sorted : rest.Pairwise fun first second => SourceMapItem.le first second)
    (after : ∀ last ∈ kept.back?, ∀ item ∈ rest, SourceMapItem.le last item) :
    ∃ chosen skipped reports, (keepFirst kept dropped rest).1.toList = kept.toList ++ chosen ∧
      (keepFirst kept dropped rest).2 = dropped.reverse ++ reports ∧
      KeepFirstSplit kept.back? rest chosen skipped reports := by
  induction rest generalizing kept dropped with
  | nil => exact ⟨[], [], [], by simp [keepFirst], by simp [keepFirst], .nil _⟩
  | cons item rest inductionHypothesis =>
      obtain ⟨atItem, sortedRest⟩ := List.pairwise_cons.mp sorted
      by_cases onLast : ∃ last ∈ kept.back?, last.debugLine = item.debugLine
      · obtain ⟨last, lastEq, sameLine⟩ := onLast
        obtain ⟨chosen, skipped, reports, keptEq, droppedEq, divided⟩ :=
          inductionHypothesis kept
            (.duplicateDebugLine item.debugLine last.sourceLine item.sourceLine :: dropped)
            sortedRest fun last' mem later laterMem => after last' mem later (.tail _ laterMem)
        rw [keepFirst_cons_of_back?_eq lastEq sameLine, lastEq]
        rw [lastEq] at divided
        exact ⟨chosen, item :: skipped, _ :: reports, keptEq, by simp [droppedEq],
          divided.drop sameLine (after last lastEq item List.mem_cons_self)⟩
      · have apart : ∀ last ∈ kept.back?, last.debugLine ≠ item.debugLine :=
          fun last mem sameLine => onLast ⟨last, mem, sameLine⟩
        obtain ⟨chosen, skipped, reports, keptEq, droppedEq, divided⟩ :=
          inductionHypothesis (kept.push item) dropped sortedRest (by simpa using atItem)
        rw [keepFirst_cons_of_apart apart]
        refine ⟨item :: chosen, skipped, reports, by simp [keptEq], droppedEq,
          (by simpa using divided : KeepFirstSplit (some item) rest chosen skipped reports).keep
            (fun last mem => lt_of_le_of_ne ?_ (apart last mem))
            (fun later mem => SourceMapItem.debugLine_le_of_le (atItem later mem))⟩
        exact SourceMapItem.debugLine_le_of_le (after last mem item List.mem_cons_self)

/-- A built map keeps and reports its sorted items as `KeepFirstSplit` says, from nothing kept. -/
theorem exists_keepFirstSplit_build (rcode : String) (items : List SourceMapItem) :
    ∃ skipped, KeepFirstSplit none (items.mergeSort SourceMapItem.le)
      (build rcode items).value.items skipped (build rcode items).diagnostics := by
  obtain ⟨chosen, skipped, reports, keptEq, droppedEq, divided⟩ :=
    keepFirst_split #[] [] _ (SourceMapItem.pairwise_le_mergeSort items) (by simp)
  rw [Array.toList_empty, List.nil_append] at keptEq
  rw [List.reverse_nil, List.nil_append] at droppedEq
  have itemsEq : (build rcode items).value.items = chosen := keptEq
  have reportsEq : (build rcode items).diagnostics = reports := droppedEq
  rw [itemsEq, reportsEq]
  exact ⟨skipped, by simpa using divided⟩

/-! ## The sort is stable -/

/-- Sorting keeps the items equal to any one item in the order they had. -/
theorem filter_mergeSort_compare_eq (items : List SourceMapItem) (pivot : SourceMapItem) :
    (items.mergeSort SourceMapItem.le).filter (·.compare pivot == .eq) =
      items.filter (·.compare pivot == .eq) := by
  have classSorted : (items.filter (·.compare pivot == .eq)).Pairwise
      fun first second => SourceMapItem.le first second := by
    refine List.pairwise_of_forall_mem_list fun first firstMem second secondMem => ?_
    have firstEq : first.compare pivot = .eq := by simpa using (List.mem_filter.mp firstMem).2
    have secondEq : second.compare pivot = .eq := by simpa using (List.mem_filter.mp secondMem).2
    rw [SourceMapItem.le_eq_isLE, TransCmp.eq_trans firstEq (OrientedCmp.eq_symm secondEq)]
    rfl
  have kept := (@List.sublist_mergeSort _ SourceMapItem.le items
    (fun _ _ _ => SourceMapItem.le_trans) SourceMapItem.le_total _ classSorted
      List.filter_sublist).filter
      fun item : SourceMapItem => item.compare pivot == .eq
  rw [List.filter_filter] at kept
  simp only [Bool.and_self] at kept
  exact (kept.eq_of_length ((List.mergeSort_perm items _).filter _).length_eq.symm).symm

/-! ## What a built map keeps and reports -/

section Built

variable (rcode : String) (items : List SourceMapItem)

/-- The item kept for a debug line is an input item, least in the item order among the input's
items on that line, and the first of the input among the items equal to it in that order. -/
theorem least_of_mem_build {kept : SourceMapItem} (mem : kept ∈ (build rcode items).value.items) :
    kept ∈ items ∧ (∀ item ∈ items, item.debugLine = kept.debugLine → kept.compare item ≠ .gt) ∧
      items.find? (·.compare kept == .eq) = some kept := by
  obtain ⟨_, divided⟩ := exists_keepFirstSplit_build rcode items
  have sortedMem := divided.chosen_sublist.subset mem
  have first : (items.mergeSort SourceMapItem.le).find? (·.debugLine == kept.debugLine) =
      some kept := divided.first kept mem
  refine ⟨List.mem_mergeSort.mp sortedMem, fun item itemMem sameLine => ?_, ?_⟩
  · rcases find?_rel_of_mem (SourceMapItem.pairwise_le_mergeSort items) first
        (List.mem_mergeSort.mpr itemMem) (by simp [sameLine]) with same | earlier
    · rw [same, SourceMapItem.compare_self]
      exact nofun
    · simpa [SourceMapItem.le] using earlier
  · rw [← List.head?_filter, ← filter_mergeSort_compare_eq, List.head?_filter]
    refine find?_eq_of_find?_eq first (by simp) fun item equal => ?_
    simpa using (SourceMapItem.compare_eq_eq_iff.mp (by simpa using equal)).1

/-- A built map shows exactly the debug lines of its input. -/
theorem exists_mem_build_iff (line : UInt32) :
    (∃ kept ∈ (build rcode items).value.items, kept.debugLine = line) ↔
      ∃ item ∈ items, item.debugLine = line := by
  obtain ⟨skipped, divided⟩ := exists_keepFirstSplit_build rcode items
  constructor
  · rintro ⟨kept, mem, rfl⟩
    exact ⟨kept, (least_of_mem_build rcode items mem).1, rfl⟩
  · rintro ⟨item, mem, rfl⟩
    rcases List.mem_append.mp (divided.perm.symm.subset (List.mem_mergeSort.mpr mem)) with
      kept | reported
    · exact ⟨item, kept, rfl⟩
    · obtain ⟨_, keeper, keeperMem, sameLine, -⟩ := exists_of_forall₂_of_mem divided.reported reported
      exact ⟨keeper, by simpa using keeperMem, sameLine⟩

/-- The items a built map drops: with the kept ones they make up the input, they are sorted by
the item order with the items equal to any one in input order, and each is reported once, in
that order, against the item kept on its debug line. -/
theorem exists_dropped_build :
    ∃ dropped, items.Perm ((build rcode items).value.items ++ dropped) ∧
      dropped.Pairwise (fun first second => SourceMapItem.le first second) ∧
      (∀ pivot, (dropped.filter (·.compare pivot == .eq)).Sublist
        (items.filter (·.compare pivot == .eq))) ∧
      List.Forall₂ (fun item report => ∃ kept ∈ (build rcode items).value.items,
          kept.debugLine = item.debugLine ∧ kept.sourceLine ≤ item.sourceLine ∧
            report = .duplicateDebugLine item.debugLine kept.sourceLine item.sourceLine)
        dropped (build rcode items).diagnostics := by
  obtain ⟨skipped, divided⟩ := exists_keepFirstSplit_build rcode items
  refine ⟨skipped, (List.mergeSort_perm items _).symm.trans divided.perm.symm,
    (SourceMapItem.pairwise_le_mergeSort items).sublist divided.skipped_sublist, fun pivot => ?_,
    by simpa using divided.reported⟩
  rw [← filter_mergeSort_compare_eq items pivot]
  exact divided.skipped_sublist.filter _

end Built

/-- The pass that keeps first items keeps everything, and reports nothing, when debug lines
strictly increase from the item kept last on. -/
theorem keepFirst_of_increasing (kept : Array SourceMapItem) (dropped : List Diagnostic)
    (rest : List SourceMapItem)
    (increasing : rest.Pairwise fun first second => first.debugLine < second.debugLine)
    (after : ∀ last ∈ kept.back?, ∀ item ∈ rest, last.debugLine < item.debugLine) :
    keepFirst kept dropped rest = (kept ++ rest.toArray, dropped.reverse) := by
  induction rest generalizing kept with
  | nil => simp [keepFirst]
  | cons item rest inductionHypothesis =>
      obtain ⟨atItem, increasingRest⟩ := List.pairwise_cons.mp increasing
      rw [keepFirst_cons_of_apart fun last mem => ne_of_lt (after last mem item List.mem_cons_self),
        inductionHypothesis (kept.push item) increasingRest (by simpa using atItem)]
      simp

/-- Items strictly increasing in debug line build into themselves, with nothing reported. -/
theorem build_of_increasing (rcode : String) {items : List SourceMapItem}
    (increasing : items.Pairwise fun first second => first.debugLine < second.debugLine) :
    build rcode items = ⟨⟨rcode, items⟩, []⟩ := by
  unfold build
  rw [List.mergeSort_of_pairwise (increasing.imp SourceMapItem.le_of_debugLine_lt),
    keepFirst_of_increasing #[] [] _ increasing (by simp)]
  simp only [List.reverse_nil, Array.toList_append, List.nil_append]

/-- Building keeps one item per debug line and reports every drop. The kept items are strictly
increasing in debug line and show exactly the input's debug lines; each is the least input item
of its line in the item order, the first of the input among those equal to it. Every other input
item is reported once, in sorted order, naming the kept source line, which is no greater than the
dropped one; so kept items and reports together number the input items. -/
theorem build_keeps_least_per_debugLine (rcode : String) (items : List SourceMapItem) :
    let built := build rcode items
    built.value.items.Pairwise (fun first second => first.debugLine < second.debugLine) ∧
    (∀ line, (∃ kept ∈ built.value.items, kept.debugLine = line) ↔
      ∃ item ∈ items, item.debugLine = line) ∧
    (∀ kept ∈ built.value.items, kept ∈ items ∧
      (∀ item ∈ items, item.debugLine = kept.debugLine → kept.compare item ≠ .gt) ∧
      items.find? (·.compare kept == .eq) = some kept) ∧
    (∃ dropped, items.Perm (built.value.items ++ dropped) ∧
      dropped.Pairwise (fun first second => SourceMapItem.le first second) ∧
      (∀ pivot, (dropped.filter (·.compare pivot == .eq)).Sublist
        (items.filter (·.compare pivot == .eq))) ∧
      List.Forall₂ (fun item report => ∃ kept ∈ built.value.items,
          kept.debugLine = item.debugLine ∧ kept.sourceLine ≤ item.sourceLine ∧
            report = .duplicateDebugLine item.debugLine kept.sourceLine item.sourceLine)
        dropped built.diagnostics) ∧
    built.value.items.length + built.diagnostics.length = items.length := by
  obtain ⟨dropped, perm, sorted, stable, reported⟩ := exists_dropped_build rcode items
  have count : (build rcode items).value.items.length + (build rcode items).diagnostics.length =
      items.length := by
    rw [perm.length_eq, List.length_append, reported.length_eq]
  exact ⟨pairwise_debugLine_lt_build rcode items, exists_mem_build_iff rcode items,
    fun _ mem => least_of_mem_build rcode items mem, ⟨dropped, perm, sorted, stable, reported⟩,
    count⟩

end SourceMap

end ListingMap
