import Mathlib
import ListingMap.Proofs.DuplicateDebugLines

/-!
# Reaching every mapped line through the listed paths

`paths` lists one spelling per path, counting paths equal by components as one, while
`pathLines` and `findSource` look files up by separator key, which tells `a/b` from `a//b`. So
every item's path is listed up to components (`SourceMap.exists_mem_paths`), and every item's
line is reached through any spelling with the separator key of the item's own path
(`SourceMap.exists_pathLines_of_mem`, `SourceMap.pathLines_eq_of_separatorKey_eq`); both facts
hold of every map, and `SourceMap.paths_cover_item_lines` puts them together. The spelling that
`paths` lists may have another key than an item's path, and then it does not reach the item's
line (`SourceMap.paths_miss_respelled_line`).
-/

namespace ListingMap

open Std

namespace SourceMap

/-- Every entry read into `lastOfRuns` is equal by components to an entry whose spelling it
keeps. -/
theorem exists_mem_lastOfRuns {keyed : List (List PathComponent × String)}
    {entry : List PathComponent × String} (mem : entry ∈ keyed) :
    ∃ kept ∈ keyed, kept.2 ∈ lastOfRuns keyed ∧ Path.compareComponents entry.1 kept.1 = .eq := by
  induction keyed using lastOfRuns.induct generalizing entry with
  | case1 first second rest same inductionHypothesis =>
      rw [lastOfRuns, if_pos same]
      rcases List.mem_cons.mp mem with rfl | later
      · obtain ⟨kept, keptMem, keptOut, equal⟩ := inductionHypothesis List.mem_cons_self
        exact ⟨kept, .tail _ keptMem, keptOut, TransCmp.eq_trans (by simpa using same) equal⟩
      · obtain ⟨kept, keptMem, keptOut, equal⟩ := inductionHypothesis later
        exact ⟨kept, .tail _ keptMem, keptOut, equal⟩
  | case2 first second rest apart inductionHypothesis =>
      rw [lastOfRuns, if_neg apart]
      rcases List.mem_cons.mp mem with rfl | later
      · exact ⟨entry, List.mem_cons_self, List.mem_cons_self, ReflCmp.compare_self⟩
      · obtain ⟨kept, keptMem, keptOut, equal⟩ := inductionHypothesis later
        exact ⟨kept, .tail _ keptMem, .tail _ keptOut, equal⟩
  | case3 last =>
      rw [List.mem_singleton.mp mem]
      exact ⟨last, List.mem_singleton_self _, List.mem_singleton_self _, ReflCmp.compare_self⟩
  | case4 => exact absurd mem List.not_mem_nil

theorem exists_mem_paths {map : SourceMap} {item : SourceMapItem} (mem : item ∈ map.items) :
    ∃ path ∈ map.paths, Path.compare path item.sourcePath = .eq := by
  have spelled : item.sourcePath ∈ dedupAdjacent (map.items.map (·.sourcePath)) :=
    mem_dedupAdjacent.mpr (List.mem_map_of_mem mem)
  unfold paths
  obtain ⟨kept, keptMem, keptOut, equal⟩ :=
    exists_mem_lastOfRuns (List.mem_mergeSort.mpr (List.mem_map.mpr ⟨_, spelled, rfl⟩))
  obtain ⟨path, -, rfl⟩ := List.mem_map.mp (List.mem_mergeSort.mp keptMem)
  exact ⟨path, keptOut, OrientedCmp.eq_symm equal⟩

theorem pathLines_eq_of_separatorKey_eq {map : SourceMap} {path path' : String}
    (sameKey : Path.separatorKey path = Path.separatorKey path') :
    map.pathLines path = map.pathLines path' := by
  simp only [pathLines, sameKey]

theorem exists_pathLines_of_mem {map : SourceMap} {item : SourceMapItem} (mem : item ∈ map.items) :
    ∃ lines, map.pathLines item.sourcePath = some lines ∧ item.sourceLine ∈ lines := by
  cases listed : map.pathLines item.sourcePath with
  | none => exact absurd rfl (pathLines_eq_none_iff.mp listed item mem)
  | some lines =>
      obtain ⟨-, -, members⟩ := pathLines_eq_some_iff.mp listed
      exact ⟨lines, rfl, (members _).mpr ⟨item, mem, rfl, rfl⟩⟩

/-- Every item's path is listed by `paths` up to components, and every spelling with the
separator key of the item's path, the item's own among them, reaches the item's source line
through `pathLines` and `findSource`. -/
theorem paths_cover_item_lines (map : SourceMap) {item : SourceMapItem} (mem : item ∈ map.items) :
    (∃ path ∈ map.paths, Path.compare path item.sourcePath = .eq) ∧
      ∀ spelling, Path.separatorKey spelling = Path.separatorKey item.sourcePath →
        ∃ lines, map.pathLines spelling = some lines ∧ item.sourceLine ∈ lines ∧
          (map.findSource spelling item.sourceLine).isSome := by
  refine ⟨exists_mem_paths mem, fun spelling sameKey => ?_⟩
  obtain ⟨lines, linesEq, shown⟩ := exists_pathLines_of_mem mem
  obtain ⟨found, foundEq⟩ := exists_findSource mem rfl sameKey.symm
  exact ⟨lines, (pathLines_eq_of_separatorKey_eq sameKey).trans linesEq, shown, by simp [foundEq]⟩

/-- On the map of `a/b` at line 1 and `a//b` at line 2, the item of `a/b` is listed up to
components and reached through every spelling with the separator key of `a/b`. -/
theorem paths_cover_item_lines_respelled :
    (⟨1, 1, "a/b", "p"⟩ : SourceMapItem) ∈
        (⟨"m.r", [⟨1, 1, "a/b", "p"⟩, ⟨2, 2, "a//b", "p"⟩]⟩ : SourceMap).items ∧
      ((∃ path ∈ (⟨"m.r", [⟨1, 1, "a/b", "p"⟩, ⟨2, 2, "a//b", "p"⟩]⟩ : SourceMap).paths,
          Path.compare path "a/b" = .eq) ∧
        ∀ spelling, Path.separatorKey spelling = Path.separatorKey "a/b" →
          ∃ lines, (⟨"m.r", [⟨1, 1, "a/b", "p"⟩, ⟨2, 2, "a//b", "p"⟩]⟩ : SourceMap).pathLines
              spelling = some lines ∧ (1 : UInt32) ∈ lines ∧
            ((⟨"m.r", [⟨1, 1, "a/b", "p"⟩, ⟨2, 2, "a//b", "p"⟩]⟩ : SourceMap).findSource
              spelling 1).isSome) :=
  ⟨List.mem_cons_self, @paths_cover_item_lines _ ⟨1, 1, "a/b", "p"⟩ List.mem_cons_self⟩

/-- Paths that are equal by components but spelled apart hide each other's lines: built from
`a/b` at line 1 and `a//b` at line 2, the map lists only `a//b`, which reaches line 2 alone. -/
theorem paths_miss_respelled_line :
    (⟨1, 1, "a/b", "p"⟩ : SourceMapItem) ∈
        (build "m.r" [⟨1, 1, "a/b", "p"⟩, ⟨2, 2, "a//b", "p"⟩]).value.items ∧
      ¬ ∃ path ∈ (build "m.r" [⟨1, 1, "a/b", "p"⟩, ⟨2, 2, "a//b", "p"⟩]).value.paths,
        ∃ lines, (build "m.r" [⟨1, 1, "a/b", "p"⟩, ⟨2, 2, "a//b", "p"⟩]).value.pathLines path =
          some lines ∧ (1 : UInt32) ∈ lines := by
  have built : (build "m.r" [⟨1, 1, "a/b", "p"⟩, ⟨2, 2, "a//b", "p"⟩]).value =
      ⟨"m.r", [⟨1, 1, "a/b", "p"⟩, ⟨2, 2, "a//b", "p"⟩]⟩ := by
    rw [build_of_increasing "m.r" (by decide)]
  have listed : (⟨"m.r", [⟨1, 1, "a/b", "p"⟩, ⟨2, 2, "a//b", "p"⟩]⟩ : SourceMap).paths =
      ["a//b"] := by cbv
  have lines : (⟨"m.r", [⟨1, 1, "a/b", "p"⟩, ⟨2, 2, "a//b", "p"⟩]⟩ : SourceMap).pathLines "a//b" =
      some [2] := by cbv
  rw [built, listed]
  refine ⟨List.mem_cons_self, ?_⟩
  simp [lines]

end SourceMap

end ListingMap
