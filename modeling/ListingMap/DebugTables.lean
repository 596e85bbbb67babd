import ListingMap.FileMap
import ListingMap.Sections
import ListingMap.Include.Section

/-!
# Debug tables of an artifact

An artifact is stored with its bytes in reverse order. Decoding reverses them, locates the two
sections, reads every file-map record and decodes the module-line section, with the combinators
of `ListingMap.Parser` taken as a parameter. Only a missing section stops decoding; damage inside
the module-line section is reported and skipped.
-/

namespace ListingMap

/-- The decoded debug tables of an artifact. -/
structure DebugTables where
  /-- The file-map records, in table order. -/
  fileMap : List FileMapRecord := []
  /-- The include records and unclassified sub-records. -/
  moduleLines : ModuleLines := {}
deriving Repr, DecidableEq, Inhabited

namespace DebugTables

/-- Decodes the debug tables of an artifact from its bytes as stored. -/
def decodeWith (nom : Combinators) (options : DecodeOptions) (stored : List UInt8) :
    Except DecodeError (Reported DebugTables) := do
  let sections ← Sections.locate ⟨stored.reverse, 0⟩
  let lines := ModuleLines.decodeWith nom options sections.moduleLines
  pure ⟨⟨FileMap.decodeWith nom sections.fileMap.bytes, lines.value⟩, lines.diagnostics⟩

/-- Decodes the debug tables with the standard combinators. -/
def decode (options : DecodeOptions) (stored : List UInt8) :
    Except DecodeError (Reported DebugTables) :=
  decodeWith Combinators.standard options stored

end DebugTables

end ListingMap
