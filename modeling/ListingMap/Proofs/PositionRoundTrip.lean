import Mathlib
import ListingMap.SourceMap.Position
import ListingMap.Proofs.ItemOrder
import ListingMap.Proofs.Lookup

/-!
# Mapping positions there and back

`toListing` looks a source position up in the source index, which answers as a scan for the first
item that shows its line of a file with the same separator key would
(`SourceMap.findSource_eq_find?`), and `toSource` looks a listing position up by binary search on
the debug lines. On
a map whose items are strictly increasing in debug line, as every built map is, the two lookups
agree (`SourceMap.positions_roundTrip`):

* a source position that maps to a listing position maps back to the same line of a file with
  the same separator key, the column being the one asked for each time;
* a listing position that maps to a source position maps back to a debug line no later than
  itself, and to itself exactly when it is the first debug line that shows that source line.

The scan finds the item with the smallest debug line among those that match, since the items
are sorted (`find?_rel_of_mem`); the look-up by debug line finds the one item on that line,
since no two share one (`SourceMap.get_eq_some_iff`).
-/

namespace ListingMap

theorem find?_rel_of_mem {α : Type} {R : α → α → Prop} {hits : α → Bool}
    {items : List α} (sorted : items.Pairwise R) {found other : α}
    (first : items.find? hits = some found) (mem : other ∈ items)
    (otherHits : hits other = true) : found = other ∨ R found other := by
  obtain ⟨-, before, after, split, beforeMiss⟩ := List.find?_eq_some_iff_append.mp first
  rw [split] at mem sorted
  rcases List.mem_append.mp mem with early | late
  · exact absurd otherHits (by simpa using beforeMiss other early)
  · rcases List.mem_cons.mp late with same | later
    · exact .inl same.symm
    · exact .inr ((List.pairwise_append.mp sorted).2.1 |> List.pairwise_cons.mp |>.1 other later)

namespace SourceMap

/-! ## The two lookups -/

section Sorted

variable {map : SourceMap}
  (sorted : map.items.Pairwise fun first second => first.debugLine < second.debugLine)

include sorted in
/-- On a map sorted by debug line, an item is found by its debug line, and only it is. -/
theorem get_eq_some_iff {debugLine : UInt32} {item : SourceMapItem} :
    map.get debugLine = some item ↔ item ∈ map.items ∧ item.debugLine = debugLine := by
  rw [get_eq_find? sorted]
  constructor
  · intro found
    exact ⟨List.mem_of_find?_eq_some found, by simpa using List.find?_some found⟩
  · rintro ⟨mem, rfl⟩
    obtain ⟨found, foundEq⟩ :
        ∃ found, map.items.find? (·.debugLine == item.debugLine) = some found :=
      Option.isSome_iff_exists.mp (List.find?_isSome.mpr ⟨item, mem, by simp⟩)
    have sameLine : found.debugLine = item.debugLine := by simpa using List.find?_some foundEq
    rcases find?_rel_of_mem sorted foundEq mem (by simp) with same | earlier
    · rw [foundEq, same]
    · exact absurd sameLine (UInt32.ne_of_lt earlier)

theorem mem_of_findSource {path : String} {line : UInt32} {found : SourceMapItem}
    (first : map.findSource path line = some found) :
    found ∈ map.items ∧ found.sourceLine = line ∧
      Path.separatorKey found.sourcePath = Path.separatorKey path := by
  rw [findSource_eq_find?] at first
  have shows := List.find?_some first
  simp only [sourceKey, beq_iff_eq, Prod.mk.injEq] at shows
  exact ⟨List.mem_of_find?_eq_some first, shows.2, shows.1⟩

theorem exists_findSource {path : String} {line : UInt32} {item : SourceMapItem}
    (mem : item ∈ map.items) (shows : item.sourceLine = line)
    (sameKey : Path.separatorKey item.sourcePath = Path.separatorKey path) :
    ∃ found, map.findSource path line = some found := by
  rw [findSource_eq_find?]
  exact Option.isSome_iff_exists.mp
    (List.find?_isSome.mpr ⟨item, mem, by simp [sourceKey, shows, sameKey]⟩)

include sorted in
/-- On a map sorted by debug line, the scan by source line finds the match with the smallest
debug line. -/
theorem debugLine_le_of_findSource {path : String} {line : UInt32} {found item : SourceMapItem}
    (first : map.findSource path line = some found) (mem : item ∈ map.items)
    (shows : item.sourceLine = line)
    (sameKey : Path.separatorKey item.sourcePath = Path.separatorKey path) :
    found.debugLine ≤ item.debugLine := by
  rw [findSource_eq_find?] at first
  rcases find?_rel_of_mem sorted first mem (by simp [sourceKey, shows, sameKey]) with same | earlier
  · rw [same]
    exact UInt32.le_refl _
  · exact UInt32.le_of_lt earlier

end Sorted

/-! ## Positions -/

theorem toListing_eq_ok_iff {map : SourceMap} {path : String} {line column : UInt32}
    {listing : ListingPosition} :
    map.toListing path line column = .ok listing ↔
      ∃ found, map.findSource path line = some found ∧ listing = ⟨found.debugLine, column⟩ := by
  unfold toListing
  cases map.findSource path line with
  | none => simp
  | some found => simp [eq_comm]

theorem toSource_eq_ok_iff {map : SourceMap} {line column : UInt32} {source : SourcePosition} :
    map.toSource line column = .ok source ↔
      ∃ found, map.get line = some found ∧
        source = ⟨found.sourcePath, found.sourceLine, column⟩ := by
  unfold toSource
  cases map.get line with
  | none => simp
  | some found => simp [eq_comm]

section Sorted

variable {map : SourceMap}
  (sorted : map.items.Pairwise fun first second => first.debugLine < second.debugLine)

include sorted in
/-- On a map sorted by debug line, a source position that maps to a listing position maps back
to its own line, of a file with the same separator key. -/
theorem toSource_of_toListing {path : String} {line column column' : UInt32}
    {listing : ListingPosition} (forward : map.toListing path line column = .ok listing) :
    listing.column = column ∧
      ∃ source, map.toSource listing.line column' = .ok source ∧ source.line = line ∧
        source.column = column' ∧ Path.separatorKey source.path = Path.separatorKey path := by
  obtain ⟨found, first, rfl⟩ := toListing_eq_ok_iff.mp forward
  obtain ⟨mem, shows, sameKey⟩ := mem_of_findSource first
  refine ⟨rfl, ⟨found.sourcePath, found.sourceLine, column'⟩, ?_, shows, rfl, sameKey⟩
  exact toSource_eq_ok_iff.mpr ⟨found, (get_eq_some_iff sorted).mpr ⟨mem, rfl⟩, rfl⟩

include sorted in
/-- On a map sorted by debug line, a listing position that maps to a source position maps back
to a debug line no later than its own, and to its own exactly when no earlier debug line shows
that source line. -/
theorem toListing_of_toSource {debugLine column column' : UInt32} {source : SourcePosition}
    (backward : map.toSource debugLine column = .ok source) :
    ∃ listing, map.toListing source.path source.line column' = .ok listing ∧
      listing.column = column' ∧ listing.line ≤ debugLine ∧
      (listing.line = debugLine ↔ ∀ item ∈ map.items,
        Path.separatorKey item.sourcePath = Path.separatorKey source.path →
          item.sourceLine = source.line → debugLine ≤ item.debugLine) := by
  obtain ⟨onLine, lineFound, rfl⟩ := toSource_eq_ok_iff.mp backward
  obtain ⟨mem, rfl⟩ := (get_eq_some_iff sorted).mp lineFound
  obtain ⟨found, first⟩ := exists_findSource mem rfl rfl
  have earliest : ∀ item ∈ map.items,
      Path.separatorKey item.sourcePath = Path.separatorKey onLine.sourcePath →
        item.sourceLine = onLine.sourceLine → found.debugLine ≤ item.debugLine :=
    fun item itemMem sameKey shows => debugLine_le_of_findSource sorted first itemMem shows sameKey
  refine ⟨⟨found.debugLine, column'⟩, toListing_eq_ok_iff.mpr ⟨found, first, rfl⟩, rfl,
    earliest onLine mem rfl rfl, ?_⟩
  constructor
  · intro same item itemMem sameKey shows
    rw [← same]
    exact earliest item itemMem sameKey shows
  · intro smallest
    obtain ⟨foundMem, foundShows, foundKey⟩ := mem_of_findSource first
    exact UInt32.le_antisymm (earliest onLine mem rfl rfl)
      (smallest found foundMem foundKey foundShows)

end Sorted

/-- Mapping positions round-trips on every built map. A source position that maps to a listing
position keeps its column, and the listing line maps back, with any column, to the same source
line of a file with the same separator key. A listing position that maps to a source position
maps back, with any column, to a debug line no later than its own, and to its own exactly when it
is the smallest debug line that shows that source line of such a file. -/
theorem positions_roundTrip (rcode : String) (items : List SourceMapItem) (path : String)
    (line debugLine column column' : UInt32) :
    let map := (build rcode items).value
    (∀ listing, map.toListing path line column = .ok listing →
      listing.column = column ∧
        ∃ source, map.toSource listing.line column' = .ok source ∧ source.line = line ∧
          source.column = column' ∧ Path.separatorKey source.path = Path.separatorKey path) ∧
    (∀ source, map.toSource debugLine column = .ok source →
      ∃ listing, map.toListing source.path source.line column' = .ok listing ∧
        listing.column = column' ∧ listing.line ≤ debugLine ∧
        (listing.line = debugLine ↔ ∀ item ∈ map.items,
          Path.separatorKey item.sourcePath = Path.separatorKey source.path →
            item.sourceLine = source.line → debugLine ≤ item.debugLine)) :=
  ⟨fun _ forward => toSource_of_toListing (pairwise_debugLine_lt_build rcode items) forward,
    fun _ backward => toListing_of_toSource (pairwise_debugLine_lt_build rcode items) backward⟩

/-- On a map of one item, a position of its file maps to the listing and back again. -/
theorem positions_roundTrip_one_item :
    (build "m.r" [⟨7, 3, "src\\a.p", "main"⟩]).value.toListing "src/a.p" 3 5 = .ok ⟨7, 5⟩ ∧
      ∃ source, (build "m.r" [⟨7, 3, "src\\a.p", "main"⟩]).value.toSource 7 9 = .ok source ∧
        source.line = 3 ∧ source.column = 9 ∧
          Path.separatorKey source.path = Path.separatorKey "src/a.p" :=
  have listed :
      (build "m.r" [⟨7, 3, "src\\a.p", "main"⟩]).value.toListing "src/a.p" 3 5 = .ok ⟨7, 5⟩ := by
    cbv
  ⟨listed, ((positions_roundTrip "m.r" _ "src/a.p" 3 7 5 9).1 ⟨7, 5⟩ listed).2⟩

end SourceMap

end ListingMap
