import Mathlib.Data.List.Chain
import ListingMap.SourceMap.Basic

/-!
# The item order, and the order of a built source map

Path components compare by kind and then by the text of names, paths by their components in
lexicographic order, and items by debug line, source line, path and procedure name. Each of
these comparisons is a lexicographic combination of lawful ones (`compareLex` and
`List.compareLex` of the standard library), so each is a lawful total preorder (`TransCmp`).
Sorting items by `SourceMapItem.le` therefore sorts them, and in particular sorts them by debug
line (`pairwise_le_mergeSort`).

`SourceMap.build` keeps a sublist of the sorted items in which no two neighbours share a debug
line. So the items of a built map are strictly increasing in debug line
(`SourceMap.pairwise_debugLine_lt_build`): no two share one.
-/

namespace ListingMap

open Std

theorem transCmp_comap {α β : Type} {cmp : β → β → Ordering} [TransCmp cmp] (view : α → β) :
    TransCmp fun first second => cmp (view first) (view second) where
  eq_swap := OrientedCmp.eq_swap
  isLE_trans := TransCmp.isLE_trans

/-! ## Paths -/

namespace PathComponent

/-- The text of a name component; the other components have none. -/
def nameText : PathComponent → Option String
  | name text => some text
  | _ => none

theorem compare_eq_compareLex :
    PathComponent.compare = compareLex (compareOn rank) (compareOn nameText) := by
  funext first second
  cases first <;> cases second <;> rfl

instance : TransCmp PathComponent.compare := by
  rw [compare_eq_compareLex]
  infer_instance

end PathComponent

namespace Path

theorem compareComponents_eq_compareLex :
    compareComponents = List.compareLex PathComponent.compare := by
  funext first second
  induction first generalizing second with
  | nil => cases second <;> rfl
  | cons component rest inductionHypothesis =>
      cases second with
      | nil => rfl
      | cons other more =>
          rw [compareComponents, List.compareLex_cons_cons, inductionHypothesis]

instance : TransCmp compareComponents := by
  rw [compareComponents_eq_compareLex]
  infer_instance

instance : TransCmp Path.compare := transCmp_comap components

end Path

/-! ## Items -/

namespace SourceMapItem

theorem compare_eq_compareLex :
    SourceMapItem.compare = compareLex (compareOn (·.debugLine)) (compareLex
      (compareOn (·.sourceLine)) (compareLex
        (fun first second : SourceMapItem => Path.compare first.sourcePath second.sourcePath)
        (compareOn (·.procName)))) := rfl

instance : TransCmp SourceMapItem.compare := by
  have : TransCmp fun first second : SourceMapItem =>
      Path.compare first.sourcePath second.sourcePath :=
    transCmp_comap SourceMapItem.sourcePath
  rw [compare_eq_compareLex]
  infer_instance

theorem le_eq_isLE (first second : SourceMapItem) :
    le first second = (SourceMapItem.compare first second).isLE := by
  unfold le
  cases SourceMapItem.compare first second <;> rfl

theorem le_trans {first second third : SourceMapItem} (firstSecond : le first second)
    (secondThird : le second third) : le first third := by
  rw [le_eq_isLE] at *
  exact TransCmp.isLE_trans firstSecond secondThird

theorem le_total (first second : SourceMapItem) : (le first second || le second first) = true := by
  have swap : SourceMapItem.compare first second = (SourceMapItem.compare second first).swap :=
    OrientedCmp.eq_swap
  rw [le_eq_isLE, le_eq_isLE, swap]
  cases SourceMapItem.compare second first <;> rfl

theorem debugLine_le_of_le {first second : SourceMapItem} (ordered : le first second) :
    first.debugLine ≤ second.debugLine := by
  rw [le_eq_isLE, compare_eq_compareLex, compareLex, Ordering.isLE_then_iff_and] at ordered
  exact isLE_compare.mp ordered.1

@[simp]
theorem compare_self (item : SourceMapItem) : item.compare item = .eq := ReflCmp.compare_self

theorem compare_eq_of_le_of_le {first second : SourceMapItem} (ordered : le first second)
    (back : le second first) : first.compare second = .eq := by
  have swap : second.compare first = (first.compare second).swap := OrientedCmp.eq_swap
  rw [le_eq_isLE] at ordered back
  rw [swap] at back
  exact Ordering.eq_eq_of_isLE_of_isLE_swap ordered back

theorem sourceLine_le_of_le {first second : SourceMapItem} (ordered : le first second)
    (sameLine : first.debugLine = second.debugLine) : first.sourceLine ≤ second.sourceLine := by
  rw [le_eq_isLE, compare_eq_compareLex, compareLex, compareOn, sameLine, ReflOrd.compare_self,
    Ordering.eq_then, compareLex, compareOn] at ordered
  exact isLE_compare.mp (Ordering.isLE_left_of_isLE_then ordered)

theorem le_of_debugLine_lt {first second : SourceMapItem}
    (earlier : first.debugLine < second.debugLine) : le first second := by
  rw [le_eq_isLE, compare_eq_compareLex, compareLex, compareOn, compare_eq_lt.mpr earlier]
  rfl

/-- Two items are equal in the item order exactly when they share debug line, source line and
procedure name and their paths are equal by components. -/
theorem compare_eq_eq_iff {first second : SourceMapItem} :
    first.compare second = .eq ↔ first.debugLine = second.debugLine ∧
      first.sourceLine = second.sourceLine ∧
        Path.compare first.sourcePath second.sourcePath = .eq ∧ first.procName = second.procName := by
  simp only [compare_eq_compareLex, compareLex_eq_eq, compareOn, LawfulEqCmp.compare_eq_iff_eq]

theorem pairwise_le_mergeSort (items : List SourceMapItem) :
    (items.mergeSort le).Pairwise fun first second => le first second :=
  @List.pairwise_mergeSort _ le (fun _ _ _ => SourceMapItem.le_trans) SourceMapItem.le_total items

end SourceMapItem

/-! ## Built maps -/

namespace SourceMap

/-- An item on the debug line of the item kept last is dropped, and reported against it. -/
theorem keepFirst_cons_of_back?_eq {kept : Array SourceMapItem} {last item : SourceMapItem}
    (lastEq : kept.back? = some last) (sameLine : last.debugLine = item.debugLine)
    (dropped : List Diagnostic) (rest : List SourceMapItem) :
    keepFirst kept dropped (item :: rest) = keepFirst kept
      (.duplicateDebugLine item.debugLine last.sourceLine item.sourceLine :: dropped) rest := by
  rw [keepFirst, lastEq]
  exact if_pos (by simpa using sameLine)

/-- Any other item is kept. -/
theorem keepFirst_cons_of_apart {kept : Array SourceMapItem} {item : SourceMapItem}
    (apart : ∀ last ∈ kept.back?, last.debugLine ≠ item.debugLine)
    (dropped : List Diagnostic) (rest : List SourceMapItem) :
    keepFirst kept dropped (item :: rest) = keepFirst (kept.push item) dropped rest := by
  rw [keepFirst]
  split
  case h_1 last lastEq => exact if_neg (by simpa using apart last lastEq)
  case h_2 => rfl

/-- What `keepFirst` keeps: the items kept before, then a sublist of the items it reads. -/
theorem exists_keepFirst_eq_append (kept : Array SourceMapItem) (dropped : List Diagnostic)
    (items : List SourceMapItem) :
    ∃ chosen, chosen.Sublist items ∧
      (keepFirst kept dropped items).1.toList = kept.toList ++ chosen := by
  induction items generalizing kept dropped with
  | nil => exact ⟨[], List.Sublist.slnil, by simp [keepFirst]⟩
  | cons item rest inductionHypothesis =>
      by_cases onLast : ∃ last ∈ kept.back?, last.debugLine = item.debugLine
      · obtain ⟨last, lastEq, sameLine⟩ := onLast
        obtain ⟨chosen, sublist, keptEq⟩ := inductionHypothesis kept
          (.duplicateDebugLine item.debugLine last.sourceLine item.sourceLine :: dropped)
        rw [keepFirst_cons_of_back?_eq lastEq sameLine]
        exact ⟨chosen, sublist.cons item, keptEq⟩
      · obtain ⟨chosen, sublist, keptEq⟩ := inductionHypothesis (kept.push item) dropped
        rw [keepFirst_cons_of_apart fun last mem sameLine => onLast ⟨last, mem, sameLine⟩]
        exact ⟨item :: chosen, sublist.cons_cons item, by simp [keptEq]⟩

/-- `keepFirst` pushes an item only after one with another debug line. -/
theorem isChain_keepFirst (kept : Array SourceMapItem)
    (distinct : kept.toList.IsChain fun first second => first.debugLine ≠ second.debugLine)
    (dropped : List Diagnostic) (items : List SourceMapItem) :
    (keepFirst kept dropped items).1.toList.IsChain
      fun first second => first.debugLine ≠ second.debugLine := by
  induction items generalizing kept dropped with
  | nil => simpa [keepFirst] using distinct
  | cons item rest inductionHypothesis =>
      by_cases onLast : ∃ last ∈ kept.back?, last.debugLine = item.debugLine
      · obtain ⟨last, lastEq, sameLine⟩ := onLast
        rw [keepFirst_cons_of_back?_eq lastEq sameLine]
        exact inductionHypothesis kept distinct _
      · have pushed : (kept.push item).toList.IsChain
            fun first second => first.debugLine ≠ second.debugLine := by
          rw [Array.toList_push, List.isChain_append]
          refine ⟨distinct, List.isChain_singleton item, ?_⟩
          intro last lastMem next nextMem
          rw [Array.getLast?_toList, Option.mem_def] at lastMem
          rw [List.head?_singleton, Option.mem_some_iff] at nextMem
          subst nextMem
          exact fun sameLine => onLast ⟨last, lastMem, sameLine⟩
        rw [keepFirst_cons_of_apart fun last mem sameLine => onLast ⟨last, mem, sameLine⟩]
        exact inductionHypothesis (kept.push item) pushed _

/-- The items of a built map are strictly increasing in debug line: sorting puts them in order,
and of the items of one debug line only the first is kept. -/
theorem pairwise_debugLine_lt_build (rcode : String) (items : List SourceMapItem) :
    (build rcode items).value.items.Pairwise
      fun first second => first.debugLine < second.debugLine := by
  obtain ⟨chosen, sublist, keptEq⟩ :=
    exists_keepFirst_eq_append #[] [] (items.mergeSort SourceMapItem.le)
  have distinct := isChain_keepFirst #[] (by simp) [] (items.mergeSort SourceMapItem.le)
  rw [keptEq, Array.toList_empty, List.nil_append] at distinct
  have sorted : chosen.IsChain fun first second => first.debugLine ≤ second.debugLine :=
    (((SourceMapItem.pairwise_le_mergeSort items).imp SourceMapItem.debugLine_le_of_le).sublist
      sublist).isChain
  have increasing : chosen.IsChain fun first second => first.debugLine < second.debugLine :=
    List.isChain_iff_getElem.mpr fun index bound =>
      lt_of_le_of_ne (List.isChain_iff_getElem.mp sorted index bound)
        (List.isChain_iff_getElem.mp distinct index bound)
  have : Trans (fun first second : SourceMapItem => first.debugLine < second.debugLine)
      (fun first second : SourceMapItem => first.debugLine < second.debugLine)
      (fun first second : SourceMapItem => first.debugLine < second.debugLine) := ⟨lt_trans⟩
  show (keepFirst #[] [] (items.mergeSort SourceMapItem.le)).1.toList.Pairwise _
  rw [keptEq, Array.toList_empty, List.nil_append]
  exact increasing.pairwise

end SourceMap

end ListingMap
