import ListingMap.SourceMap.Query

/-!
# Mapping positions

A position in the debug listing is a line and a column; a position in the source is a path, a
line and a column. Mapping a position keeps its column and sends its line through the source map:
`toListing` by `findSource`, `toSource` by `get`. A line the map does not cover is an
`UnmappedPosition`.
-/

namespace ListingMap

/-- A position in the debug listing. -/
structure ListingPosition where
  /-- The debug line. -/
  line : UInt32
  /-- The column, carried over unchanged. -/
  column : UInt32
deriving Repr, DecidableEq, Inhabited

/-- A position in a source file. -/
structure SourcePosition where
  /-- The source file. -/
  path : String
  /-- The source line. -/
  line : UInt32
  /-- The column, carried over unchanged. -/
  column : UInt32
deriving Repr, DecidableEq, Inhabited

/-- The text of a listing position: `line:column`. -/
def ListingPosition.display (position : ListingPosition) : String :=
  s!"{position.line}:{position.column}"

/-- The text of a source position: `path:line:column`. -/
def SourcePosition.display (position : SourcePosition) : String :=
  s!"{position.path}:{position.line}:{position.column}"

/-- A position whose line the source map does not cover. -/
inductive UnmappedPosition where
  /-- No item shows this line of this file. -/
  | source (path : String) (line : UInt32)
  /-- No item sits on this debug line. -/
  | listing (line : UInt32)
deriving Repr, DecidableEq, Inhabited

/-- The one-line text of an unmapped position; the path is shown as given, between backticks. -/
def UnmappedPosition.message : UnmappedPosition → String
  | .source path line => "\x60" ++ path ++ s!"\x60 line {line} is not mapped to a debug line"
  | .listing line => s!"debug listing line {line} is not mapped to a source line"

namespace SourceMap

/-- The listing position that shows a source position. -/
def toListing (map : SourceMap) (path : String) (line column : UInt32) :
    Except UnmappedPosition ListingPosition :=
  match map.findSource path line with
  | some item => .ok ⟨item.debugLine, column⟩
  | none => .error (.source path line)

/-- The source position a listing position shows. -/
def toSource (map : SourceMap) (line column : UInt32) : Except UnmappedPosition SourcePosition :=
  match map.get line with
  | some item => .ok ⟨item.sourcePath, item.sourceLine, column⟩
  | none => .error (.listing line)

end SourceMap

end ListingMap
