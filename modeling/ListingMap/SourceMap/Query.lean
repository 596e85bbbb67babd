import ListingMap.SourceMap.Basic

/-!
# Looking up a source map

* `get` finds the item of a debug line by the standard library's binary search on the items'
  debug lines (`binarySearchByKey`), which the items are sorted by.
* `findSource` finds, among the items of a source line in a file, the one with the smallest
  debug line. It goes through the source index (`sourceIndex`): filled in item order, it files
  each item under its path's separator key and its source line unless an earlier item holds that
  key. Files are matched by `Path.separatorKey`, so `a\b` finds `a/b` but `a//b` does not.
* `pathLines` lists, in increasing order and without repeats, the source lines that the source
  index holds for a file; it is `none` when there is none.
* `paths` lists the source paths in path order, one per path: of paths equal by components, the
  spelling of the last such item.

Items are sorted by debug line, so the first item filed under a key is the one with the smallest
debug line.
-/

namespace ListingMap

namespace SourceMap

/-- The standard library's binary search over the window of `size` items from `base`, by a key
the items are sorted on. It halves the window, keeping the upper half unless the key at its
start is greater than the target, and does not stop at a match; then it compares the one key
left. `ok` is the position of a match, `error` the position where the target would go. -/
def searchWindow {α : Type} (items : List α) (key : α → UInt32) (target : UInt32)
    (base size : Nat) (inside : base + size ≤ items.length) (nonempty : 0 < size) :
    Except Nat Nat :=
  if more : 1 < size then
    searchWindow items key target
      (if compare (key items[base + size / 2]) target = .gt then base else base + size / 2)
      (size - size / 2) (by split <;> omega) (by omega)
  else
    match compare (key items[base]) target with
    | .eq => .ok base
    | .lt => .error (base + 1)
    | .gt => .error base
termination_by size

/-- Binary search by key over the whole list; an empty list has nothing to compare. -/
def binarySearchByKey {α : Type} (items : List α) (key : α → UInt32) (target : UInt32) :
    Except Nat Nat :=
  if nonempty : 0 < items.length then
    searchWindow items key target 0 items.length (by omega) nonempty
  else
    .error 0

/-- The item of a debug line. -/
def get (map : SourceMap) (debugLine : UInt32) : Option SourceMapItem :=
  match binarySearchByKey map.items (·.debugLine) debugLine with
  | .ok position => map.items[position]?
  | .error _ => none

/-- Adds an entry for a key that has none; a key already present keeps its entry. -/
def insertNew {κ ν : Type} [BEq κ] (entries : List (κ × ν)) (key : κ) (value : ν) :
    List (κ × ν) :=
  if entries.any (·.1 == key) then entries else entries ++ [(key, value)]

/-- The key an item is filed under in the source index: its path's separator key and its
source line. -/
def sourceKey (item : SourceMapItem) : String × UInt32 :=
  (Path.separatorKey item.sourcePath, item.sourceLine)

/-- The source index: for each key, the position of the first item filed under it. -/
def sourceIndex (items : List SourceMapItem) : List ((String × UInt32) × Nat) :=
  items.zipIdx.foldl (fun index entry => insertNew index (sourceKey entry.1) entry.2) []

/-- The item with the smallest debug line that shows `line` of `path`. -/
def findSource (map : SourceMap) (path : String) (line : UInt32) : Option SourceMapItem :=
  ((sourceIndex map.items).lookup (Path.separatorKey path, line)).bind (map.items[·]?)

/-- Removes repeats that stand next to each other. -/
def dedupAdjacent {α : Type} [BEq α] : List α → List α
  | first :: second :: rest =>
      if first == second then dedupAdjacent (second :: rest) else first :: dedupAdjacent (second :: rest)
  | short => short

/-- The source lines of `path` that the source index holds, increasing, or `none` if there are
none. -/
def pathLines (map : SourceMap) (path : String) : Option (List UInt32) :=
  let key := Path.separatorKey path
  let lines := (sourceIndex map.items).filterMap fun entry =>
    if entry.1.1 == key then some entry.1.2 else none
  match lines with
  | [] => none
  | _ => some (dedupAdjacent (lines.mergeSort (· ≤ ·)))

/-- Of each run of paths equal by components, the last one. -/
def lastOfRuns : List (List PathComponent × String) → List String
  | first :: second :: rest =>
      if Path.compareComponents first.1 second.1 == .eq then lastOfRuns (second :: rest)
      else first.2 :: lastOfRuns (second :: rest)
  | [last] => [last.2]
  | [] => []

/-- The source paths in path order, one spelling per path: that of the last item with it. -/
def paths (map : SourceMap) : List String :=
  let spellings := dedupAdjacent (map.items.map (·.sourcePath))
  let keyed := spellings.map fun path => (Path.components path, path)
  lastOfRuns (keyed.mergeSort fun first second => Path.compareComponents first.1 second.1 != .gt)

end SourceMap

end ListingMap
