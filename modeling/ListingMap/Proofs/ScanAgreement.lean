import ListingMap.Proofs.PositionRoundTrip

/-!
# Lookups of a built map answer like scans

A built map is strictly increasing in debug line (`SourceMap.pairwise_debugLine_lt_build`). On
such a map every lookup gives the answer that a plain scan of the items defines:

* `get` and `toSource` find the one item on a debug line, or report the debug line as unmapped
  when no item is on it (`SourceMap.binarySearch_answers_as_scan`);
* `findSource` and `toListing` find, among the items that show a line of a file with the path's
  separator key, the one with the smallest debug line, or report the position as unmapped; and
  `pathLines` is the strictly increasing list of the lines that items of such a file show, or
  `none` (`SourceMap.sourceIndex_answers_as_scan`).
-/

namespace ListingMap

namespace SourceMapItem

/-- An item shows a line of a file when it shows that source line of a file with the same
separator key. -/
def ShowsLine (item : SourceMapItem) (path : String) (line : UInt32) : Prop :=
  Path.separatorKey item.sourcePath = Path.separatorKey path ∧ item.sourceLine = line

end SourceMapItem

namespace SourceMap

/-- What a scan for a line of a file answers with: an item that shows it, with no smaller debug
line among the items that do. -/
def FirstShowing (map : SourceMap) (path : String) (line : UInt32) (item : SourceMapItem) : Prop :=
  item ∈ map.items ∧ item.ShowsLine path line ∧
    ∀ other ∈ map.items, other.ShowsLine path line → item.debugLine ≤ other.debugLine

theorem findSource_eq_none_iff {map : SourceMap} {path : String} {line : UInt32} :
    map.findSource path line = none ↔ ∀ item ∈ map.items, ¬ item.ShowsLine path line := by
  rw [findSource_eq_find?, List.find?_eq_none]
  simp [sourceKey, SourceMapItem.ShowsLine]

theorem toListing_eq_error_iff {map : SourceMap} {path : String} {line column : UInt32} :
    map.toListing path line column = .error (.source path line) ↔
      map.findSource path line = none := by
  unfold toListing
  cases map.findSource path line <;> simp

theorem toSource_eq_error_iff {map : SourceMap} {line column : UInt32} :
    map.toSource line column = .error (.listing line) ↔ map.get line = none := by
  unfold toSource
  cases map.get line <;> simp

section Sorted

variable {map : SourceMap}
  (sorted : map.items.Pairwise fun first second => first.debugLine < second.debugLine)
include sorted

theorem eq_of_debugLine_eq {first second : SourceMapItem} (firstMem : first ∈ map.items)
    (secondMem : second ∈ map.items) (sameLine : first.debugLine = second.debugLine) :
    first = second := by
  have firstFound := (get_eq_some_iff sorted).mpr ⟨firstMem, sameLine⟩
  have secondFound := (get_eq_some_iff sorted).mpr ⟨secondMem, rfl⟩
  exact Option.some.inj (firstFound.symm.trans secondFound)

/-- On a map sorted by debug line, the index lookup finds exactly the item a scan answers with. -/
theorem findSource_eq_some_iff {path : String} {line : UInt32} {item : SourceMapItem} :
    map.findSource path line = some item ↔ map.FirstShowing path line item := by
  have found : ∀ found, map.findSource path line = some found → map.FirstShowing path line found := by
    intro found first
    obtain ⟨mem, shows, sameKey⟩ := mem_of_findSource first
    exact ⟨mem, ⟨sameKey, shows⟩, fun other otherMem ⟨otherKey, otherShows⟩ =>
      debugLine_le_of_findSource sorted first otherMem otherShows otherKey⟩
  constructor
  · exact found item
  · rintro ⟨mem, ⟨sameKey, shows⟩, least⟩
    obtain ⟨other, first⟩ := exists_findSource mem shows sameKey
    obtain ⟨otherMem, otherShows, otherLeast⟩ := found other first
    have sameLine : other.debugLine = item.debugLine :=
      UInt32.le_antisymm (otherLeast item mem ⟨sameKey, shows⟩) (least other otherMem otherShows)
    rw [first, eq_of_debugLine_eq sorted otherMem mem sameLine]

/-- On a map sorted by debug line, the binary search finds nothing exactly when no item is on the
debug line. -/
theorem get_eq_none_iff {debugLine : UInt32} :
    map.get debugLine = none ↔ ∀ item ∈ map.items, item.debugLine ≠ debugLine := by
  rw [get_eq_find? sorted, List.find?_eq_none]
  simp

end Sorted

/-- On every built map the binary search by debug line finds what a scan of the items finds:
the one item on the debug line, or nothing when no item is on it; a listing position maps to the
source position of that item with its own column, and is unmapped when there is none. -/
theorem binarySearch_answers_as_scan (rcode : String) (items : List SourceMapItem)
    (debugLine column : UInt32) :
    (build rcode items).value.get debugLine =
        (build rcode items).value.items.find? (·.debugLine == debugLine) ∧
      (∀ item, (build rcode items).value.get debugLine = some item ↔
        item ∈ (build rcode items).value.items ∧ item.debugLine = debugLine) ∧
      ((build rcode items).value.get debugLine = none ↔
        ∀ item ∈ (build rcode items).value.items, item.debugLine ≠ debugLine) ∧
      (∀ source, (build rcode items).value.toSource debugLine column = .ok source ↔
        ∃ item ∈ (build rcode items).value.items, item.debugLine = debugLine ∧
          source = ⟨item.sourcePath, item.sourceLine, column⟩) ∧
      ((build rcode items).value.toSource debugLine column = .error (.listing debugLine) ↔
        ∀ item ∈ (build rcode items).value.items, item.debugLine ≠ debugLine) := by
  have sorted := pairwise_debugLine_lt_build rcode items
  refine ⟨get_eq_find? sorted debugLine, fun _ => get_eq_some_iff sorted, get_eq_none_iff sorted,
    fun source => ?_, toSource_eq_error_iff.trans (get_eq_none_iff sorted)⟩
  rw [toSource_eq_ok_iff]
  constructor
  · rintro ⟨item, found, rfl⟩
    obtain ⟨mem, onLine⟩ := (get_eq_some_iff sorted).mp found
    exact ⟨item, mem, onLine, rfl⟩
  · rintro ⟨item, mem, onLine, rfl⟩
    exact ⟨item, (get_eq_some_iff sorted).mpr ⟨mem, onLine⟩, rfl⟩

/-- On every built map the source index answers as a scan of the items would. A line of a file
is found as the item with the smallest debug line among those that show it, or as nothing when
none does; a source position maps to that item's debug line with its own column, and is
unmapped when there is none. The lines of a file are the strictly increasing list of the lines
that items of a file with its separator key show, or `none` when there are none. -/
theorem sourceIndex_answers_as_scan (rcode : String) (items : List SourceMapItem) (path : String)
    (line column : UInt32) :
    (∀ item, (build rcode items).value.findSource path line = some item ↔
        (build rcode items).value.FirstShowing path line item) ∧
      ((build rcode items).value.findSource path line = none ↔
        ∀ item ∈ (build rcode items).value.items, ¬ item.ShowsLine path line) ∧
      (∀ listing, (build rcode items).value.toListing path line column = .ok listing ↔
        ∃ item, (build rcode items).value.FirstShowing path line item ∧
          listing = ⟨item.debugLine, column⟩) ∧
      ((build rcode items).value.toListing path line column = .error (.source path line) ↔
        ∀ item ∈ (build rcode items).value.items, ¬ item.ShowsLine path line) ∧
      (∀ lines, (build rcode items).value.pathLines path = some lines ↔
        lines ≠ [] ∧ lines.Pairwise (· < ·) ∧
          ∀ shown, shown ∈ lines ↔ ∃ item ∈ (build rcode items).value.items,
            Path.separatorKey item.sourcePath = Path.separatorKey path ∧ item.sourceLine = shown) ∧
      ((build rcode items).value.pathLines path = none ↔
        ∀ item ∈ (build rcode items).value.items,
          Path.separatorKey item.sourcePath ≠ Path.separatorKey path) := by
  have sorted := pairwise_debugLine_lt_build rcode items
  refine ⟨fun _ => findSource_eq_some_iff sorted, findSource_eq_none_iff, fun listing => ?_,
    toListing_eq_error_iff.trans findSource_eq_none_iff, fun _ => pathLines_eq_some_iff,
    pathLines_eq_none_iff⟩
  rw [toListing_eq_ok_iff]
  constructor
  · rintro ⟨item, found, rfl⟩
    exact ⟨item, (findSource_eq_some_iff sorted).mp found, rfl⟩
  · rintro ⟨item, first, rfl⟩
    exact ⟨item, (findSource_eq_some_iff sorted).mpr first, rfl⟩

end SourceMap

end ListingMap
