import ListingMap.Json.Value
import ListingMap.SourceMap.Basic

/-!
# The persisted form of a source map

A source map is persisted as a JSON object with the artifact's path under `rcode` and the items
under `items`; each item is an object with `debug_line`, `source_line`, `source_path` and
`proc_name`, in that order.
-/

namespace ListingMap

/-- An item as a JSON object. -/
def SourceMapItem.toJson (item : SourceMapItem) : Json.Value :=
  .object [("debug_line", .number item.debugLine.toNat), ("source_line", .number item.sourceLine.toNat),
    ("source_path", .string item.sourcePath), ("proc_name", .string item.procName)]

/-- A source map as a JSON object. -/
def SourceMap.toJson (map : SourceMap) : Json.Value :=
  .object [("rcode", .string map.rcode), ("items", .array (map.items.map SourceMapItem.toJson))]

/-- The persisted text of a source map. -/
def SourceMap.toJsonText (map : SourceMap) : String := map.toJson.render

end ListingMap
