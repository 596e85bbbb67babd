import Mathlib.Data.List.Sort
import ListingMap.SourceMap.Query

/-!
# Lookups that answer like scans

A source map answers its lookups through structures built for speed: `get` by binary search on
the debug lines, `findSource` and `pathLines` through the source index. Each answers as a plain
scan of the items would.

* The binary search reports a match only at a position that holds the target
  (`SourceMap.searchWindow_sound`), and on strictly increasing keys it finds every position that
  does (`SourceMap.searchWindow_complete`): the probe at the middle of the window always keeps
  the half that holds the target. So on a map strictly increasing in debug line, `get` finds what
  a scan for the debug line finds (`SourceMap.get_eq_find?`).
* The source index holds, for each key, the position of the first item filed under it
  (`SourceMap.lookup_sourceIndex`), since a key once filed keeps its entry. So `findSource` is
  the first item that shows the line of a file with that separator key, on every map
  (`SourceMap.findSource_eq_find?`).
* The keys of the index are the keys of the items, so `pathLines` is the strictly increasing list
  of the lines that items show of such a file (`SourceMap.pathLines_eq_some_iff`), or `none`
  when there are none (`SourceMap.pathLines_eq_none_iff`).
-/

namespace ListingMap

open Std

namespace SourceMap

/-! ## Binary search -/

section Search

variable {α : Type} {items : List α} {key : α → UInt32} {target : UInt32}

/-- A position the search reports as a match holds the target, whatever the order of the keys. -/
theorem searchWindow_sound {base size : Nat} {inside : base + size ≤ items.length}
    {nonempty : 0 < size} {position : Nat}
    (found : searchWindow items key target base size inside nonempty = .ok position) :
    ∃ bound : position < items.length, key items[position] = target := by
  fun_induction searchWindow items key target base size inside nonempty with
  | case1 _ _ _ _ _ inductionHypothesis => exact inductionHypothesis found
  | case2 base size inside nonempty _ matched =>
      cases found
      exact ⟨by omega, Std.compare_eq_iff_eq.mp matched⟩
  | case3 => cases found
  | case4 => cases found

variable (increasing : items.Pairwise fun first second => key first < key second)
include increasing

theorem key_lt_of_lt {earlier later : Nat} (earlierBound : earlier < items.length)
    (laterBound : later < items.length) (before : earlier < later) :
    key items[earlier] < key items[later] :=
  List.pairwise_iff_getElem.mp increasing earlier later earlierBound laterBound before

theorem lt_of_key_lt {first second : Nat} (firstBound : first < items.length)
    (secondBound : second < items.length) (smaller : key items[first] < key items[second]) :
    first < second := by
  refine Nat.lt_of_not_le fun notBefore => ?_
  rcases Nat.lt_or_eq_of_le notBefore with later | same
  · exact UInt32.lt_irrefl _
      (UInt32.lt_trans smaller (key_lt_of_lt increasing secondBound firstBound later))
  · subst same
    exact UInt32.lt_irrefl _ smaller

theorem le_of_key_le {first second : Nat} (firstBound : first < items.length)
    (secondBound : second < items.length) (atMost : key items[first] ≤ key items[second]) :
    first ≤ second :=
  Nat.le_of_not_lt fun later =>
    UInt32.lt_irrefl _ (UInt32.lt_of_lt_of_le (key_lt_of_lt increasing secondBound firstBound later)
      atMost)

/-- On strictly increasing keys, the search finds every position of its window that holds the
target. -/
theorem searchWindow_complete {position : Nat} (bound : position < items.length)
    (hit : key items[position] = target) {base size : Nat} {inside : base + size ≤ items.length}
    {nonempty : 0 < size} (low : base ≤ position) (high : position < base + size) :
    searchWindow items key target base size inside nonempty = .ok position := by
  fun_induction searchWindow items key target base size inside nonempty with
  | case1 base size inside nonempty more inductionHypothesis =>
      -- the probe at the middle keeps the half of the window that holds the position
      revert inductionHypothesis
      split
      case isTrue greater =>
        intro inductionHypothesis
        have before : position < base + size / 2 :=
          lt_of_key_lt increasing bound (by omega) (hit ▸ compare_eq_gt.mp greater)
        exact inductionHypothesis low (by omega)
      case isFalse notGreater =>
        intro inductionHypothesis
        have after : base + size / 2 ≤ position :=
          le_of_key_le increasing (by omega) bound (hit ▸ LawfulLECmp.ne_gt_iff_le.mp notGreater)
        exact inductionHypothesis after (by omega)
  | case2 base size inside nonempty _ _ =>
      have same : position = base := by omega
      subst same
      rfl
  | case3 base size inside nonempty _ less =>
      have same : position = base := by omega
      subst same
      exact absurd (Std.compare_eq_iff_eq.mpr hit) (by simp [less])
  | case4 base size inside nonempty _ greater =>
      have same : position = base := by omega
      subst same
      exact absurd (Std.compare_eq_iff_eq.mpr hit) (by simp [greater])

/-- On strictly increasing keys, the search reports a match exactly at the positions that hold
the target. -/
theorem binarySearchByKey_eq_ok_iff {position : Nat} :
    binarySearchByKey items key target = .ok position ↔
      ∃ bound : position < items.length, key items[position] = target := by
  unfold binarySearchByKey
  split
  case isTrue nonempty =>
    constructor
    · exact searchWindow_sound
    · rintro ⟨bound, hit⟩
      exact searchWindow_complete increasing bound hit (Nat.zero_le _) (by omega)
  case isFalse empty =>
    constructor
    · intro found
      cases found
    · rintro ⟨bound, -⟩
      omega

end Search

/-- On a map strictly increasing in debug line, the binary search finds what a scan for the debug
line finds. -/
theorem get_eq_find? {map : SourceMap}
    (increasing : map.items.Pairwise fun first second => first.debugLine < second.debugLine)
    (debugLine : UInt32) :
    map.get debugLine = map.items.find? (·.debugLine == debugLine) := by
  unfold get
  cases scan : map.items.find? (·.debugLine == debugLine) with
  | some item =>
      obtain ⟨hits, position, bound, rfl, -⟩ := List.find?_eq_some_iff_getElem.mp scan
      rw [(binarySearchByKey_eq_ok_iff increasing).mpr ⟨bound, by simpa using hits⟩]
      exact List.getElem?_eq_getElem bound
  | none =>
      split
      case h_1 position found =>
        obtain ⟨bound, hit⟩ := (binarySearchByKey_eq_ok_iff increasing).mp found
        exact absurd hit (by simpa using List.find?_eq_none.mp scan _ (List.getElem_mem bound))
      case h_2 => rfl

/-! ## The source index -/

/-- Adding an entry for a key answers a lookup as before, or with the new entry where there was
none and the key is the one looked up. -/
theorem lookup_insertNew {κ ν : Type} [BEq κ] [LawfulBEq κ] (entries : List (κ × ν))
    (key probe : κ) (value : ν) :
    (insertNew entries key value).lookup probe =
      (entries.lookup probe).or (if probe == key then some value else none) := by
  unfold insertNew
  split
  case isTrue present =>
    by_cases same : probe = key
    · subst same
      obtain ⟨entry, mem, filed⟩ := List.any_eq_true.mp present
      have entered : (entries.lookup probe).isSome :=
        List.lookup_isSome_iff.mpr ⟨entry, mem, by simp [eq_of_beq filed]⟩
      obtain ⟨found, foundEq⟩ := Option.isSome_iff_exists.mp entered
      simp [foundEq]
    · simp [same]
  case isFalse =>
    simp only [List.lookup_append, List.lookup_cons, List.lookup_nil]
    cases probe == key <;> rfl

/-- Filling the index from position `start` on keeps what it held and adds, for each key it
lacked, the position of the first item filed under it. -/
theorem lookup_foldl_insertNew (items : List SourceMapItem) (start : Nat)
    (index : List ((String × UInt32) × Nat)) (probe : String × UInt32) :
    ((items.zipIdx start).foldl (fun index entry => insertNew index (sourceKey entry.1) entry.2)
        index).lookup probe =
      (index.lookup probe).or ((items.findIdx? (sourceKey · == probe)).map (· + start)) := by
  induction items generalizing start index with
  | nil => simp
  | cons item rest inductionHypothesis =>
      rw [List.zipIdx_cons, List.foldl_cons, inductionHypothesis, lookup_insertNew,
        List.findIdx?_cons]
      by_cases filed : sourceKey item = probe
      · subst filed
        simp
      · have apart : (probe == sourceKey item) = false := beq_false_of_ne (Ne.symm filed)
        have apartItem : (sourceKey item == probe) = false := beq_false_of_ne filed
        simp only [apart, apartItem, Bool.false_eq_true, if_false, Option.or_none, Option.map_map]
        congr 2
        funext position
        simp only [Function.comp_apply]
        omega

/-- The source index holds, for each key, the position of the first item filed under it. -/
theorem lookup_sourceIndex (items : List SourceMapItem) (probe : String × UInt32) :
    (sourceIndex items).lookup probe = items.findIdx? (sourceKey · == probe) := by
  simp [sourceIndex, lookup_foldl_insertNew]

theorem findIdx?_bind_getElem? {β : Type} (items : List β) (test : β → Bool) :
    (items.findIdx? test).bind (items[·]?) = items.find? test := by
  induction items with
  | nil => rfl
  | cons item rest inductionHypothesis =>
      rw [List.findIdx?_cons, List.find?_cons]
      cases test item with
      | true => rfl
      | false => simpa [Option.bind_map, Function.comp_def] using inductionHypothesis

/-- The index lookup finds the first item that shows the line of a file with the separator key
of the path: the scan's answer, on every map. -/
theorem findSource_eq_find? (map : SourceMap) (path : String) (line : UInt32) :
    map.findSource path line =
      map.items.find? (sourceKey · == (Path.separatorKey path, line)) := by
  rw [findSource, lookup_sourceIndex, findIdx?_bind_getElem?]

/-- A key has an entry in the index exactly when some item is filed under it. -/
theorem exists_mem_sourceIndex_iff (items : List SourceMapItem) (probe : String × UInt32) :
    (∃ position, (probe, position) ∈ sourceIndex items) ↔
      ∃ item ∈ items, sourceKey item = probe := by
  have entered : ((sourceIndex items).lookup probe).isSome ↔
      ∃ item ∈ items, sourceKey item = probe := by
    simp [lookup_sourceIndex, List.findIdx?_isSome]
  rw [← entered, List.lookup_isSome_iff]
  constructor
  · rintro ⟨position, mem⟩
    exact ⟨_, mem, by simp⟩
  · rintro ⟨entry, mem, same⟩
    exact ⟨entry.2, by simpa [eq_of_beq same] using mem⟩

/-- The lines the index holds for a separator key are those that items with that key show. -/
theorem mem_indexLines_iff {items : List SourceMapItem} {key : String} {line : UInt32} :
    line ∈ (sourceIndex items).filterMap
        (fun entry => if entry.1.1 == key then some entry.1.2 else none) ↔
      ∃ item ∈ items, Path.separatorKey item.sourcePath = key ∧ item.sourceLine = line := by
  calc line ∈ (sourceIndex items).filterMap
          (fun entry => if entry.1.1 == key then some entry.1.2 else none)
      _ ↔ ∃ position, ((key, line), position) ∈ sourceIndex items := by
        simp only [List.mem_filterMap, beq_iff_eq, Option.ite_none_right_eq_some,
          Option.some.injEq]
        constructor
        · rintro ⟨⟨⟨entryKey, entryLine⟩, position⟩, mem, rfl, rfl⟩
          exact ⟨position, mem⟩
        · rintro ⟨position, mem⟩
          exact ⟨_, mem, rfl, rfl⟩
      _ ↔ ∃ item ∈ items, sourceKey item = (key, line) := exists_mem_sourceIndex_iff items _
      _ ↔ _ := by simp [sourceKey]

/-! ## Lines of a file -/

theorem mem_dedupAdjacent {β : Type} [BEq β] [LawfulBEq β] {items : List β} {a : β} :
    a ∈ dedupAdjacent items ↔ a ∈ items := by
  fun_induction dedupAdjacent items with
  | case1 first second rest repeated inductionHypothesis =>
      rw [inductionHypothesis, eq_of_beq repeated]
      simp
  | case2 first second rest _ inductionHypothesis =>
      rw [List.mem_cons, inductionHypothesis, ← List.mem_cons]
  | case3 => rfl

theorem pairwise_lt_dedupAdjacent {lines : List UInt32} (sorted : lines.Pairwise (· ≤ ·)) :
    (dedupAdjacent lines).Pairwise (· < ·) := by
  fun_induction dedupAdjacent lines with
  | case1 first second rest _ inductionHypothesis =>
      exact inductionHypothesis (List.pairwise_cons.mp sorted).2
  | case2 first second rest apart inductionHypothesis =>
      obtain ⟨firstLe, restSorted⟩ := List.pairwise_cons.mp sorted
      refine List.pairwise_cons.mpr ⟨fun later mem => ?_, inductionHypothesis restSorted⟩
      have firstLt : first < second :=
        UInt32.lt_of_le_of_ne (firstLe second List.mem_cons_self) (by simpa using apart)
      rcases List.mem_cons.mp (mem_dedupAdjacent.mp mem) with rfl | inRest
      · exact firstLt
      · exact UInt32.lt_of_lt_of_le firstLt ((List.pairwise_cons.mp restSorted).1 later inRest)
  | case3 short notLonger =>
      match short, notLonger with
      | [], _ => exact List.Pairwise.nil
      | [_], _ => exact List.pairwise_singleton _ _
      | _ :: _ :: _, notLonger => exact absurd rfl (notLonger _ _ _)

theorem pairwise_lt_dedupAdjacent_mergeSort (lines : List UInt32) :
    (dedupAdjacent (lines.mergeSort (· ≤ ·))).Pairwise (· < ·) := by
  have trans : ∀ first second third : UInt32, decide (first ≤ second) = true →
      decide (second ≤ third) = true → decide (first ≤ third) = true := by
    intro first second third firstSecond secondThird
    simp only [decide_eq_true_eq] at *
    exact UInt32.le_trans firstSecond secondThird
  have total : ∀ first second : UInt32,
      (decide (first ≤ second) || decide (second ≤ first)) = true := by
    intro first second
    simpa using UInt32.le_total first second
  exact pairwise_lt_dedupAdjacent ((List.pairwise_mergeSort trans total lines).imp (by simp))

/-- `pathLines` sorts, without repeats, the lines the index holds for the path's separator key:
the lines that items with that key show. -/
theorem pathLines_eq (map : SourceMap) (path : String) :
    ∃ indexLines : List UInt32,
      (∀ line, line ∈ indexLines ↔ ∃ item ∈ map.items,
        Path.separatorKey item.sourcePath = Path.separatorKey path ∧ item.sourceLine = line) ∧
      map.pathLines path = match indexLines with
        | [] => none
        | _ => some (dedupAdjacent (indexLines.mergeSort (· ≤ ·))) :=
  ⟨_, fun _ => mem_indexLines_iff, rfl⟩

/-- A file's lines are `none` exactly when no item shows a line of a file with its separator
key. -/
theorem pathLines_eq_none_iff {map : SourceMap} {path : String} :
    map.pathLines path = none ↔
      ∀ item ∈ map.items, Path.separatorKey item.sourcePath ≠ Path.separatorKey path := by
  obtain ⟨indexLines, members, linesEq⟩ := pathLines_eq map path
  rw [linesEq]
  cases indexLines with
  | nil =>
      refine iff_of_true rfl fun item mem sameKey => ?_
      exact List.not_mem_nil ((members _).mpr ⟨item, mem, sameKey, rfl⟩)
  | cons first rest =>
      refine iff_of_false (by simp) fun apart => ?_
      obtain ⟨item, itemMem, sameKey, -⟩ := (members first).mp List.mem_cons_self
      exact apart item itemMem sameKey

/-- A file's lines, when there are some, are the strictly increasing list of the lines that items
show of a file with its separator key. -/
theorem pathLines_eq_some_iff {map : SourceMap} {path : String} {lines : List UInt32} :
    map.pathLines path = some lines ↔
      lines ≠ [] ∧ lines.Pairwise (· < ·) ∧
        ∀ line, line ∈ lines ↔ ∃ item ∈ map.items,
          Path.separatorKey item.sourcePath = Path.separatorKey path ∧ item.sourceLine = line := by
  obtain ⟨indexLines, members, linesEq⟩ := pathLines_eq map path
  rw [linesEq]
  cases indexLines with
  | nil =>
      refine iff_of_false (by simp) ?_
      rintro ⟨nonempty, -, sameLines⟩
      obtain ⟨line, mem⟩ := List.exists_mem_of_ne_nil lines nonempty
      exact List.not_mem_nil ((members line).mpr ((sameLines line).mp mem))
  | cons first rest =>
      have kept : ∀ line, line ∈ dedupAdjacent ((first :: rest).mergeSort (· ≤ ·)) ↔
          ∃ item ∈ map.items, Path.separatorKey item.sourcePath = Path.separatorKey path ∧
            item.sourceLine = line := by
        intro line
        rw [mem_dedupAdjacent, List.mem_mergeSort]
        exact members line
      show some _ = some lines ↔ _
      rw [Option.some.injEq]
      constructor
      · rintro rfl
        refine ⟨fun empty => ?_, pairwise_lt_dedupAdjacent_mergeSort _, kept⟩
        have shown := (kept first).mpr ((members first).mp List.mem_cons_self)
        rw [empty] at shown
        exact List.not_mem_nil shown
      · rintro ⟨-, increasing, sameLines⟩
        exact List.Pairwise.eq_of_mem_iff (pairwise_lt_dedupAdjacent_mergeSort _) increasing
          fun line => (kept line).trans (sameLines line).symm

end SourceMap

end ListingMap
