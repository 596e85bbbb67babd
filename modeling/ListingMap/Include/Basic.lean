/-!
# Include records

The module-line section names the source files whose lines appear in the listing. Each file is
an include record: its debug number, which file-map records refer to; the debug number of the
record it belongs under; four header words whose meaning the format leaves open; its filename;
and the layout it was read with. The first record of each chunk is that chunk's root; later
records are module-level includes, which stand on their own, or inline references, which belong
under the chunk's root. Sub-records that match neither layout are kept raw with their offset.

`ModuleLines` collects both lists; appending two collections appends their lists, so decoding a
section piece by piece and joining the pieces gives the same collection.
-/

namespace ListingMap

/-- The layout an include record was read with. -/
inductive IncludeKind where
  /-- The first record of a chunk. -/
  | root
  /-- A module-level include, marked by a module-level tag. -/
  | fileBoundary
  /-- An include referenced inline from the chunk's root, marked by the inline tag. -/
  | inlineRef
deriving Repr, DecidableEq, Inhabited

/-- A source file named by the module-line section. -/
structure IncludeRecord where
  /-- The debug number of the record this one belongs under, zero when it stands alone. -/
  parentDebugNum : UInt32
  /-- The number file-map records use to refer to this file. -/
  debugNum : UInt32
  /-- Four header words, kept as read. -/
  words : Vector UInt32 4
  /-- The file's name as stored. -/
  sourceFilename : String
  /-- The layout the record was read with. -/
  kind : IncludeKind
deriving Repr, DecidableEq, Inhabited

/-- A sub-record that matches no child layout, in reading order. -/
structure UnclassifiedRecord where
  /-- Where the stored sub-record starts in the logical artifact. -/
  offset : Nat
  /-- Its bytes after normalisation. -/
  raw : List UInt8
deriving Repr, DecidableEq, Inhabited

/-- What the module-line section holds: include records and the sub-records kept raw. -/
structure ModuleLines where
  /-- Include records in section order. -/
  includes : List IncludeRecord := []
  /-- Unclassified sub-records in section order. -/
  unclassified : List UnclassifiedRecord := []
deriving Repr, DecidableEq, Inhabited

namespace ModuleLines

instance : Append ModuleLines where
  append first second :=
    ⟨first.includes ++ second.includes, first.unclassified ++ second.unclassified⟩

/-- The collections joined in order. -/
def concat (parts : List ModuleLines) : ModuleLines := parts.foldr (· ++ ·) {}

/-- The first root record: the main program of the artifact. -/
def mainProgram (lines : ModuleLines) : Option IncludeRecord :=
  lines.includes.find? (·.kind == .root)

@[simp]
theorem includes_append (first second : ModuleLines) :
    (first ++ second).includes = first.includes ++ second.includes := rfl

@[simp]
theorem unclassified_append (first second : ModuleLines) :
    (first ++ second).unclassified = first.unclassified ++ second.unclassified := rfl

end ModuleLines

end ListingMap
