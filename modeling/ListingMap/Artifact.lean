import ListingMap.Word
import ListingMap.FileMap
import ListingMap.Sections
import ListingMap.Include.Section

/-!
# Writing artifacts

An artifact is described by its file-map records, its chunks of module-line fields and a
trailer. Fields are written in reading order by the layout writers below, the inverses of the
layouts `ListingMap.Include` reads: a root is its debug number, four words and its
NUL-terminated filename; a module-level include puts a zero and its tag after the second word;
an inline reference puts a zero and the inline tag `8` after the first word.

In logical order the artifact holds every file-map record, then sixteen zero bytes; then each
chunk; then four zero bytes and the trailer. In a chunk, each field is stored reversed, padded
with zeros to a multiple of four bytes and followed by four more zero bytes; the chunk is then
padded with zeros until its length is a multiple of eight and it ends in at least eight zero
bytes. The stored artifact is the logical one reversed.
-/

namespace ListingMap

namespace Include

/-- The bytes of a filename as a field ends with it: its text and a NUL. -/
def nameBytes (name : String) : List UInt8 := name.toUTF8.toList ++ [0]

/-- The four words, each written most significant byte first. -/
def wordBytes (words : List UInt32) : List UInt8 := words.flatMap Word.bytes

/-- A root field in reading order. -/
def rootField (debugNum : UInt8) (words : Vector UInt32 4) (name : String) : List UInt8 :=
  debugNum :: wordBytes words.toList ++ nameBytes name

/-- A module-level include field in reading order, marked by `tag`. -/
def fileBoundaryField (debugNum : UInt8) (words : Vector UInt32 4) (tag : UInt8) (name : String) :
    List UInt8 :=
  debugNum :: wordBytes (words.toList.take 2) ++ [0, tag] ++ wordBytes (words.toList.drop 2) ++
    nameBytes name

/-- An inline reference field in reading order, marked by the inline tag `8`. -/
def inlineRefField (debugNum : UInt8) (words : Vector UInt32 4) (name : String) : List UInt8 :=
  debugNum :: wordBytes (words.toList.take 1) ++ [0, 8] ++ wordBytes (words.toList.drop 1) ++
    nameBytes name

/-- A field as stored: reversed, padded with zeros to a multiple of four, then four zeros. -/
def storeField (field : List UInt8) : List UInt8 :=
  field.reverse ++ List.replicate ((fieldWidth - field.length % fieldWidth) % fieldWidth + fieldWidth) 0

/-- The number of zero bytes at the end of a byte string. -/
def trailingZeros (bytes : List UInt8) : Nat := (bytes.reverse.takeWhile (· == 0)).length

/-- The zeros that close a chunk of `length` bytes ending in `zeros` zero bytes: the fewest that
make the length a multiple of eight and the zero run at least eight long. -/
def chunkPadding (length zeros : Nat) : Nat :=
  let least := chunkWidth - min zeros chunkWidth
  least + (chunkWidth - (length + least) % chunkWidth) % chunkWidth

/-- A chunk as stored: its fields stored in order, then its padding. -/
def storeChunk (fields : List (List UInt8)) : List UInt8 :=
  let bytes := fields.flatMap storeField
  bytes ++ List.replicate (chunkPadding bytes.length (trailingZeros bytes)) 0

end Include

/-- What an artifact holds, before it is laid out in bytes. -/
structure Artifact where
  /-- The file-map records, in table order. -/
  fileMap : List FileMapRecord := []
  /-- The chunks of the module-line section, each a list of fields in reading order. -/
  chunks : List (List (List UInt8)) := []
  /-- Bytes after the module-line section. -/
  trailer : List UInt8 := []

namespace Artifact

/-- The bytes of an artifact in logical order. -/
def logical (artifact : Artifact) : List UInt8 :=
  FileMap.encode artifact.fileMap ++ List.replicate Sections.boundaryWidth 0 ++
    artifact.chunks.flatMap Include.storeChunk ++ List.replicate Include.terminatorLength 0 ++
    artifact.trailer

/-- The bytes of an artifact as stored: the logical bytes reversed. -/
def stored (artifact : Artifact) : List UInt8 := artifact.logical.reverse

end Artifact

end ListingMap
