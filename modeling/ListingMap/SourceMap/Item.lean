import ListingMap.Path

/-!
# Source-map items

An item says that one line of the debug listing shows one line of a source file, inside a
procedure. Items order by debug line, then source line, then source path (by components), then
procedure name; a source map keeps items in this order. An item is displayed as
`procedure debugLine -> path:sourceLine`.
-/

namespace ListingMap

/-- One debug-listing line and the source line it shows. -/
structure SourceMapItem where
  /-- The line of the debug listing. -/
  debugLine : UInt32
  /-- The line of the source file. -/
  sourceLine : UInt32
  /-- The source file. -/
  sourcePath : String
  /-- The procedure the listing belongs to. -/
  procName : String
deriving Repr, DecidableEq, Inhabited

namespace SourceMapItem

/-- Items order by debug line, source line, source path components and procedure name. -/
def compare (first second : SourceMapItem) : Ordering :=
  (Ord.compare first.debugLine second.debugLine).then <|
    (Ord.compare first.sourceLine second.sourceLine).then <|
      (Path.compare first.sourcePath second.sourcePath).then <|
        Ord.compare first.procName second.procName

/-- The first item comes no later than the second. -/
def le (first second : SourceMapItem) : Bool := first.compare second != .gt

/-- The text of an item: `procedure debugLine -> path:sourceLine`. -/
def display (item : SourceMapItem) : String :=
  s!"{item.procName} {item.debugLine} -> {item.sourcePath}:{item.sourceLine}"

end SourceMapItem

end ListingMap
