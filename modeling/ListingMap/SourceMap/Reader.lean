import ListingMap.Json.Reader
import ListingMap.SourceMap.Basic

/-!
# Reading a persisted source map

A persisted source map is a record with the artifact's path and the list of items, each item a
record of its debug line, source line, source path and procedure name. Each record may be
written as an object or as an array of its fields in order; in an object unknown members are
ignored and every field is required. Debug and source lines are 32-bit words. The items read
are built into a source map again, so the map read is sorted and has one item per debug line
whatever order the document lists them in.
-/

namespace ListingMap

namespace SourceMapItem

/-- The fields of an item read so far. -/
structure Draft where
  debugLine : Option UInt32 := none
  sourceLine : Option UInt32 := none
  sourcePath : Option String := none
  procName : Option String := none

/-- The largest word. -/
def wordLimit : Nat := Nat.pow 2 32 - 1

/-- How an item is read from a document. -/
def form : Json.RecordForm Draft SourceMapItem where
  name := "SourceMapItem"
  fields := ["debug_line", "source_line", "source_path", "proc_name"]
  defaults := false
  empty := {}
  has draft
    | 0 => draft.debugLine.isSome
    | 1 => draft.sourceLine.isSome
    | 2 => draft.sourcePath.isSome
    | _ => draft.procName.isSome
  readField
    | 0, draft => do pure { draft with debugLine := some (← Json.readNat wordLimit "u32").toUInt32 }
    | 1, draft => do pure { draft with sourceLine := some (← Json.readNat wordLimit "u32").toUInt32 }
    | 2, draft => do pure { draft with sourcePath := some (← Json.readString "path string") }
    | _, draft => do pure { draft with procName := some (← Json.readString "a string") }
  finish
    | ⟨some debugLine, some sourceLine, some sourcePath, some procName⟩ =>
        .ok ⟨debugLine, sourceLine, sourcePath, procName⟩
    | ⟨none, _, _, _⟩ => .error "debug_line"
    | ⟨_, none, _, _⟩ => .error "source_line"
    | ⟨_, _, none, _⟩ => .error "source_path"
    | ⟨_, _, _, none⟩ => .error "proc_name"

end SourceMapItem

namespace SourceMap

/-- The fields of a persisted map read so far. -/
structure Draft where
  rcode : Option String := none
  items : Option (List SourceMapItem) := none

/-- How a persisted map is read from a document, before its items are built into a map. -/
def form : Json.RecordForm Draft (String × List SourceMapItem) where
  name := "SourceMapData"
  fields := ["rcode", "items"]
  defaults := false
  empty := {}
  has draft
    | 0 => draft.rcode.isSome
    | _ => draft.items.isSome
  readField
    | 0, draft => do pure { draft with rcode := some (← Json.readString "path string") }
    | _, draft => do pure { draft with items := some (← Json.readList (Json.readRecord SourceMapItem.form)) }
  finish
    | ⟨some rcode, some items⟩ => .ok (rcode, items)
    | ⟨none, _⟩ => .error "rcode"
    | ⟨_, none⟩ => .error "items"

/-- Reads a persisted source map and builds it again. -/
def ofJsonText (text : String) : Except Json.Error SourceMap :=
  (Json.readDocument (Json.readRecord form) text).map fun (rcode, items) =>
    (build rcode items).value

end SourceMap

end ListingMap
