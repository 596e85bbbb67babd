import Mathlib
import ListingMap.Proofs.DuplicateDebugLines
import ListingMap.SourceMap.Json
import ListingMap.SourceMap.Reader

/-!
# Input order, and building twice

The item order is a total preorder and not an order: two items it finds equal may still differ,
when their paths are spelled differently but are equal by components (`a/b` and `a//b`). Sorting
two orderings of one list therefore gives lists that agree position by position up to that
equality (`forall₂_compare_eq_of_perm`), and the pass that keeps first items treats such lists
alike (`SourceMap.keepFirst_congr`). So building a permutation of a list gives the same
diagnostics, and items that agree in every field but the spelling of their paths; when no two
input items are equal in the item order without being equal, it gives the very same map
(`SourceMap.build_perm_equiv`). Of two spellings the map keeps the one met first, so in general
the spelling does depend on the input order (`SourceMap.build_keeps_first_spelling`).

A built map is sorted with one item per debug line, so building its items again gives the same
map and no diagnostics, and reading back its persisted form builds the map itself
(`SourceMap.build_idempotent`).
-/

namespace ListingMap

open Std

section Preorder

variable {α : Type} {cmp : α → α → Ordering} [TransCmp cmp]

/-- Two lists sorted by a lawful comparison that are permutations of each other agree position
by position up to equality in that comparison. -/
theorem forall₂_compare_eq_of_perm {first second : List α} (perm : first.Perm second)
    (firstSorted : first.Pairwise fun a b => (cmp a b).isLE)
    (secondSorted : second.Pairwise fun a b => (cmp a b).isLE) :
    List.Forall₂ (fun a b => cmp a b = .eq) first second := by
  -- each element stands for its class by the first element of `first` equal to it; on these
  -- representatives the comparison is antisymmetric, so the two sorted images coincide
  let representative (a : α) : α := (first.find? fun b => cmp b a == .eq).getD a
  have equal (a : α) : cmp (representative a) a = .eq := by
    cases found : first.find? (fun b => cmp b a == .eq) with
    | none => simp [representative, found, ReflCmp.compare_self]
    | some b => simpa [representative, found] using List.find?_some found
  have congr {a b : α} (mem : a ∈ first) (same : cmp a b = .eq) :
      representative a = representative b := by
    have sameTest : (fun c => cmp c a == .eq) = (fun c => cmp c b == .eq) := by
      funext c
      rw [TransCmp.congr_right same]
    obtain ⟨found, first⟩ : ∃ found, first.find? (fun c => cmp c a == .eq) = some found :=
      Option.isSome_iff_exists.mp (List.find?_isSome.mpr ⟨a, mem, by simp [ReflCmp.compare_self]⟩)
    simp only [representative, ← sameTest, first, Option.getD_some]
  have compare_representative (a b : α) : cmp (representative a) (representative b) = cmp a b := by
    rw [TransCmp.congr_left (equal a), TransCmp.congr_right (equal b)]
  have sorted {items : List α} (itemsSorted : items.Pairwise fun a b => (cmp a b).isLE) :
      (items.map representative).Pairwise fun a b => (cmp a b).isLE :=
    List.pairwise_map.mpr (itemsSorted.imp fun ordered => by rwa [compare_representative])
  have sameImage : first.map representative = second.map representative := by
    refine List.Perm.eq_of_pairwise ?_ (sorted firstSorted) (sorted secondSorted) (perm.map _)
    intro x y xMem yMem ordered back
    obtain ⟨a, aMem, rfl⟩ := List.mem_map.mp xMem
    obtain ⟨b, -, rfl⟩ := List.mem_map.mp yMem
    have swap : cmp b a = (cmp a b).swap := OrientedCmp.eq_swap
    rw [compare_representative] at ordered back
    rw [swap] at back
    exact congr aMem (Ordering.eq_eq_of_isLE_of_isLE_swap ordered back)
  have related : List.Forall₂ (fun a b => representative a = representative b) first second := by
    have images : List.Forall₂ (· = ·) (first.map representative) (second.map representative) :=
      sameImage ▸ List.forall₂_refl _
    rwa [List.forall₂_map_left_iff, List.forall₂_map_right_iff] at images
  exact related.imp fun a b same =>
    TransCmp.eq_trans (OrientedCmp.eq_symm (equal a)) (same ▸ equal b)

end Preorder

namespace SourceMap

/-- Items equal in the item order share debug line and source line, so the pass that keeps first
items treats lists equal position by position in that order alike: it keeps items equal position
by position and reports the same. -/
theorem keepFirst_congr {items items' : List SourceMapItem}
    (same : List.Forall₂ (fun a b => a.compare b = .eq) items items')
    (kept kept' : Array SourceMapItem) (dropped : List Diagnostic)
    (lastSame : Option.Rel (fun a b => a.compare b = .eq) kept.back? kept'.back?) :
    ∃ chosen chosen', (keepFirst kept dropped items).1.toList = kept.toList ++ chosen ∧
      (keepFirst kept' dropped items').1.toList = kept'.toList ++ chosen' ∧
      List.Forall₂ (fun a b => a.compare b = .eq) chosen chosen' ∧
      (keepFirst kept dropped items).2 = (keepFirst kept' dropped items').2 := by
  induction same generalizing kept kept' dropped with
  | nil => exact ⟨[], [], by simp [keepFirst], by simp [keepFirst], .nil, by simp [keepFirst]⟩
  | @cons item item' rest rest' itemSame _ inductionHypothesis =>
      obtain ⟨sameDebug, sameSource, -⟩ := SourceMapItem.compare_eq_eq_iff.mp itemSame
      have push : ∃ chosen chosen',
          (keepFirst (kept.push item) dropped rest).1.toList = kept.toList ++ chosen ∧
          (keepFirst (kept'.push item') dropped rest').1.toList = kept'.toList ++ chosen' ∧
          List.Forall₂ (fun a b => a.compare b = .eq) chosen chosen' ∧
          (keepFirst (kept.push item) dropped rest).2 =
            (keepFirst (kept'.push item') dropped rest').2 := by
        obtain ⟨chosen, chosen', keptEq, keptEq', related, droppedEq⟩ :=
          inductionHypothesis (kept.push item) (kept'.push item') dropped
            (by rw [Array.back?_push, Array.back?_push]; exact .some itemSame)
        exact ⟨item :: chosen, item' :: chosen', by simp [keptEq], by simp [keptEq'],
          .cons itemSame related, droppedEq⟩
      rw [keepFirst, keepFirst]
      generalize lastEq : kept.back? = last? at lastSame ⊢
      generalize lastEq' : kept'.back? = last'? at lastSame ⊢
      cases lastSame with
      | none => exact push
      | @some last last' lastSame =>
          obtain ⟨lastDebug, lastSource, -⟩ := SourceMapItem.compare_eq_eq_iff.mp lastSame
          dsimp only
          rw [← sameDebug, ← lastDebug, ← sameSource, ← lastSource]
          split
          case isTrue =>
            exact inductionHypothesis kept kept' _ (by rw [lastEq, lastEq']; exact .some lastSame)
          case isFalse => exact push

/-- Building a permutation of a list gives the same diagnostics, and items that agree position
by position in debug line, source line and procedure name, with paths equal by components. When
no two input items are equal in the item order without being equal, it gives the same map. -/
theorem build_perm_equiv (rcode : String) {items items' : List SourceMapItem}
    (perm : items'.Perm items) :
    (build rcode items').diagnostics = (build rcode items).diagnostics ∧
    List.Forall₂ (fun kept' kept => kept'.debugLine = kept.debugLine ∧
        kept'.sourceLine = kept.sourceLine ∧
        Path.compare kept'.sourcePath kept.sourcePath = .eq ∧ kept'.procName = kept.procName)
      (build rcode items').value.items (build rcode items).value.items ∧
    ((∀ a ∈ items, ∀ b ∈ items, a.compare b = .eq → a = b) →
      build rcode items' = build rcode items) := by
  have sortedPerm : (items'.mergeSort SourceMapItem.le).Perm (items.mergeSort SourceMapItem.le) :=
    (List.mergeSort_perm _ _).trans (perm.trans (List.mergeSort_perm _ _).symm)
  have isLE_sorted (list : List SourceMapItem) :
      (list.mergeSort SourceMapItem.le).Pairwise fun a b => (a.compare b).isLE :=
    (SourceMapItem.pairwise_le_mergeSort list).imp fun ordered => by
      rwa [SourceMapItem.le_eq_isLE] at ordered
  obtain ⟨chosen', chosen, keptEq', keptEq, related, droppedEq⟩ :=
    keepFirst_congr (forall₂_compare_eq_of_perm sortedPerm (isLE_sorted items') (isLE_sorted items))
      #[] #[] [] .none
  rw [Array.toList_empty, List.nil_append] at keptEq keptEq'
  refine ⟨droppedEq, ?_, fun distinct => ?_⟩
  · show List.Forall₂ _ (keepFirst #[] [] (items'.mergeSort SourceMapItem.le)).1.toList
      (keepFirst #[] [] (items.mergeSort SourceMapItem.le)).1.toList
    rw [keptEq', keptEq]
    exact related.imp fun _ _ => SourceMapItem.compare_eq_eq_iff.mp
  · have sortEq : items'.mergeSort SourceMapItem.le = items.mergeSort SourceMapItem.le := by
      refine List.Perm.eq_of_pairwise ?_ (SourceMapItem.pairwise_le_mergeSort items')
        (SourceMapItem.pairwise_le_mergeSort items) sortedPerm
      intro a b aMem bMem ordered back
      exact distinct a (perm.subset (List.mem_mergeSort.mp aMem)) b (List.mem_mergeSort.mp bMem)
        (SourceMapItem.compare_eq_of_le_of_le ordered back)
    unfold build
    rw [sortEq]

theorem build_pair_of_compare_eq (rcode : String) {first second : SourceMapItem}
    (equal : first.compare second = .eq) :
    build rcode [first, second] = ⟨⟨rcode, [first]⟩,
      [.duplicateDebugLine second.debugLine first.sourceLine second.sourceLine]⟩ := by
  obtain ⟨sameLine, -⟩ := SourceMapItem.compare_eq_eq_iff.mp equal
  have sorted : [first, second].Pairwise fun a b => SourceMapItem.le a b := by
    simp [SourceMapItem.le_eq_isLE, equal]
  unfold build
  rw [List.mergeSort_of_pairwise sorted, keepFirst_cons_of_apart (by simp),
    keepFirst_cons_of_back?_eq (by simp) sameLine]
  simp [keepFirst]

/-- Of two items that differ only in the spelling of equal paths, building keeps the one met
first, so the map built depends on the input order. -/
theorem build_keeps_first_spelling :
    ([⟨1, 1, "a//b", "p"⟩, ⟨1, 1, "a/b", "p"⟩] : List SourceMapItem).Perm
        [⟨1, 1, "a/b", "p"⟩, ⟨1, 1, "a//b", "p"⟩] ∧
      (build "m.r" [⟨1, 1, "a//b", "p"⟩, ⟨1, 1, "a/b", "p"⟩]).value.items ≠
        (build "m.r" [⟨1, 1, "a/b", "p"⟩, ⟨1, 1, "a//b", "p"⟩]).value.items := by
  have equal : SourceMapItem.compare ⟨1, 1, "a//b", "p"⟩ ⟨1, 1, "a/b", "p"⟩ = .eq := by cbv
  rw [build_pair_of_compare_eq "m.r" equal, build_pair_of_compare_eq "m.r" (OrientedCmp.eq_symm equal)]
  exact ⟨.swap _ _ _, by decide⟩

/-- Building the two orders of that input reports the same and keeps equal items. -/
theorem build_perm_equiv_swapped :
    ([⟨1, 1, "a//b", "p"⟩, ⟨1, 1, "a/b", "p"⟩] : List SourceMapItem).Perm
        [⟨1, 1, "a/b", "p"⟩, ⟨1, 1, "a//b", "p"⟩] ∧
      (build "m.r" [⟨1, 1, "a//b", "p"⟩, ⟨1, 1, "a/b", "p"⟩]).diagnostics =
        (build "m.r" [⟨1, 1, "a/b", "p"⟩, ⟨1, 1, "a//b", "p"⟩]).diagnostics ∧
      List.Forall₂ (fun kept' kept => kept'.debugLine = kept.debugLine ∧
          kept'.sourceLine = kept.sourceLine ∧
          Path.compare kept'.sourcePath kept.sourcePath = .eq ∧ kept'.procName = kept.procName)
        (build "m.r" [⟨1, 1, "a//b", "p"⟩, ⟨1, 1, "a/b", "p"⟩]).value.items
        (build "m.r" [⟨1, 1, "a/b", "p"⟩, ⟨1, 1, "a//b", "p"⟩]).value.items :=
  ⟨.swap _ _ _, (build_perm_equiv "m.r" (.swap _ _ _)).1, (build_perm_equiv "m.r" (.swap _ _ _)).2.1⟩

/-! ## Building twice -/

/-- A built map is its own build: its items are sorted with one per debug line, so building them
again keeps them all and reports nothing. Reading back its persisted form, when the text reads
back as the artifact and the items written, therefore gives the map itself; so does any reader
that gives back what its writer wrote. -/
theorem build_idempotent (rcode : String) (items : List SourceMapItem) :
    let map := (build rcode items).value
    build map.rcode map.items = ⟨map, []⟩ ∧
      (Json.readDocument (Json.readRecord form) map.toJsonText = .ok (map.rcode, map.items) →
        ofJsonText map.toJsonText = .ok map) ∧
      ∀ {ε : Type} (write : SourceMap → String)
        (read : String → Except ε (String × List SourceMapItem)),
        read (write map) = .ok (map.rcode, map.items) →
          ((read (write map)).map fun (rcode, items) => (build rcode items).value) = .ok map := by
  intro map
  have rebuilt : build map.rcode map.items = ⟨map, []⟩ :=
    build_of_increasing map.rcode (pairwise_debugLine_lt_build rcode items)
  have readsBack : ∀ {ε : Type} (read : String → Except ε (String × List SourceMapItem))
      (text : String), read text = .ok (map.rcode, map.items) →
        ((read text).map fun (rcode, items) => (build rcode items).value) = .ok map := by
    intro ε read text reads
    rw [reads]
    show Except.ok (build map.rcode map.items).value = Except.ok map
    rw [rebuilt]
  exact ⟨rebuilt, readsBack _ _, fun write read => readsBack read (write map)⟩

/-- A one-item map built, persisted and read back is the same map. -/
theorem build_reads_back_one_item :
    ofJsonText (build "main.r" [⟨1, 4, "src\\main.p", "main"⟩]).value.toJsonText =
      .ok (build "main.r" [⟨1, 4, "src\\main.p", "main"⟩]).value := by
  have reads : (Json.readDocument (Json.readRecord form)
      (build "main.r" [⟨1, 4, "src\\main.p", "main"⟩]).value.toJsonText).toOption =
      some ((build "main.r" [⟨1, 4, "src\\main.p", "main"⟩]).value.rcode,
        (build "main.r" [⟨1, 4, "src\\main.p", "main"⟩]).value.items) := by
    decide +kernel
  refine (build_idempotent "main.r" _).2.1 ?_
  revert reads
  cases Json.readDocument (Json.readRecord form)
    (build "main.r" [⟨1, 4, "src\\main.p", "main"⟩]).value.toJsonText <;> simp [Except.toOption]

end SourceMap

end ListingMap
