import ListingMap.Diagnostic
import ListingMap.SourceMap.Item

/-!
# Source maps

A source map is the list of items of one artifact, sorted by the item order and holding at
most one item per debug line. `SourceMap.build` sorts any list of items stably and keeps, of
the items that share a debug line, the one sorted first: the smallest source line, then the
first path, then the first procedure name. Each item dropped is reported as a
`duplicateDebugLine` diagnostic naming the source line kept and the one dropped, in sorted
order.
-/

namespace ListingMap

/-- The items of one artifact, sorted, one per debug line. -/
structure SourceMap where
  /-- The artifact the map describes. -/
  rcode : String
  /-- The items in item order, with distinct debug lines. -/
  items : List SourceMapItem
deriving Repr, DecidableEq, Inhabited

namespace SourceMap

/-- Keeps the first item of each debug line of a sorted list; `kept` holds the items kept so
far and `dropped` the diagnostics of the items dropped so far, latest first. -/
def keepFirst (kept : Array SourceMapItem) (dropped : List Diagnostic) :
    List SourceMapItem → Array SourceMapItem × List Diagnostic
  | [] => (kept, dropped.reverse)
  | item :: rest =>
      match kept.back? with
      | some last =>
          if last.debugLine == item.debugLine then
            keepFirst kept (.duplicateDebugLine item.debugLine last.sourceLine item.sourceLine :: dropped) rest
          else
            keepFirst (kept.push item) dropped rest
      | none => keepFirst (kept.push item) dropped rest

/-- Builds the source map of an artifact from items in any order. -/
def build (rcode : String) (items : List SourceMapItem) : Reported SourceMap :=
  let (kept, dropped) := keepFirst #[] [] (items.mergeSort SourceMapItem.le)
  ⟨⟨rcode, kept.toList⟩, dropped⟩

/-- The number of items. -/
def length (map : SourceMap) : Nat := map.items.length

end SourceMap

end ListingMap
