import ListingMap.Json.Value
import ListingMap.DebugTables
import ListingMap.SourceMap.Json
import ListingMap.SourceMap.Position

/-!
# Reports

The command line prints its results as JSON documents. A diagnostic is an object whose `kind`
names the anomaly in snake case, followed by the anomaly's fields. An include record lists its
parent's and its own debug number, its four header words under `unknown`, its filename and its
kind; a raw sub-record its offset and bytes. Positions list their path, line and column.
-/

namespace ListingMap

/-- A diagnostic as a JSON object. -/
def Diagnostic.toJson : Diagnostic → Json.Value
  | .invalidByte offset byte symbol =>
      .object [("kind", .string "invalid_byte"), ("offset", .number offset),
        ("byte", .number byte.toNat), ("symbol", .string symbol)]
  | .unterminatedString offset =>
      .object [("kind", .string "unterminated_string"), ("offset", .number offset)]
  | .truncatedRecord offset length =>
      .object [("kind", .string "truncated_record"), ("offset", .number offset), ("len", .number length)]
  | .unclassifiedRecord offset length =>
      .object [("kind", .string "unclassified_record"), ("offset", .number offset),
        ("len", .number length)]
  | .unresolvedRecord debugNum sourceNum =>
      .object [("kind", .string "unresolved_record"), ("debug_num", .number debugNum.toNat),
        ("source_num", .number sourceNum.toNat)]
  | .invertedRange debugNum lineBegin lineEnd =>
      .object [("kind", .string "inverted_range"), ("debug_num", .number debugNum.toNat),
        ("line_begin", .number lineBegin.toNat), ("line_end", .number lineEnd.toNat)]
  | .implausibleRange debugNum lineBegin lineEnd =>
      .object [("kind", .string "implausible_range"), ("debug_num", .number debugNum.toNat),
        ("line_begin", .number lineBegin.toNat), ("line_end", .number lineEnd.toNat)]
  | .debugLineOverflow debugNum sourceNum sourceLine =>
      .object [("kind", .string "debug_line_overflow"), ("debug_num", .number debugNum.toNat),
        ("source_num", .number sourceNum.toNat), ("source_line", .number sourceLine.toNat)]
  | .duplicateDebugLine debugLine kept dropped =>
      .object [("kind", .string "duplicate_debug_line"), ("debug_line", .number debugLine.toNat),
        ("kept", .number kept.toNat), ("dropped", .number dropped.toNat)]

/-- The name of an include kind. -/
def IncludeKind.name : IncludeKind → String
  | .root => "Root"
  | .fileBoundary => "ChildFileBoundary"
  | .inlineRef => "ChildInlineRef"

/-- An include record as a JSON object. -/
def IncludeRecord.toJson (record : IncludeRecord) : Json.Value :=
  .object [("parent_debug_num", .number record.parentDebugNum.toNat),
    ("debug_num", .number record.debugNum.toNat),
    ("unknown", .array (record.words.toList.map fun word => .number word.toNat)),
    ("source_filename", .string record.sourceFilename), ("kind", .string record.kind.name)]

/-- The include records and raw sub-records as a JSON object. -/
def ModuleLines.toJson (lines : ModuleLines) : Json.Value :=
  .object [("includes", .array (lines.includes.map IncludeRecord.toJson)),
    ("unclassified", .array (lines.unclassified.map fun record =>
      .object [("offset", .number record.offset),
        ("raw", .array (record.raw.map fun byte => .number byte.toNat))]))]

/-- A listing position as a JSON object. -/
def ListingPosition.toJson (position : ListingPosition) : Json.Value :=
  .object [("line", .number position.line.toNat), ("column", .number position.column.toNat)]

/-- A source position as a JSON object. -/
def SourcePosition.toJson (position : SourcePosition) : Json.Value :=
  .object [("path", .string position.path), ("line", .number position.line.toNat),
    ("column", .number position.column.toNat)]

/-- A result with its diagnostics, under the given name. -/
def Report.withDiagnostics (name : String) (value : Json.Value) (diagnostics : List Diagnostic) :
    Json.Value :=
  .object [(name, value), ("diagnostics", .array (diagnostics.map Diagnostic.toJson))]

end ListingMap
