import ListingMap.Segment
import ListingMap.Include.Layout

/-!
# Decoding the module-line section

The section is a sequence of chunks, each closed by an 8-aligned block of eight zero bytes.
A chunk that opens with four zero bytes ends the section; a chunk of zeros only is padding.
Within a chunk, sub-records are closed by 4-aligned blocks of four zero bytes; each is
normalised, and empty ones are skipped. The first sub-record is the chunk's root: if it cannot be
read the chunk is reported as truncated and abandoned. Every later sub-record becomes a child
include under that root, or is kept raw with an `unclassifiedRecord` diagnostic; a child whose
header its layout cannot read is dropped.

Decoding works chunk by chunk and joins the results, so the decoded section is the join of its
decoded chunks.
-/

namespace ListingMap

namespace Include

/-- The width of the zero block that closes a chunk. -/
def chunkWidth : Nat := 8

/-- The width of the zero block that closes a sub-record. -/
def fieldWidth : Nat := 4

/-- The number of zero bytes that open the chunk ending the section. -/
def terminatorLength : Nat := 4

/-- The non-empty normalised sub-records of a chunk, each at the offset of its stored bytes. -/
def fields (chunk : Segment) : List Segment :=
  (chunk.split fieldWidth 0).filterMap fun stored =>
    match normalize stored.bytes with
    | [] => none
    | field => some ⟨field, stored.offset⟩

/-- Decodes a sub-record after the chunk's root. -/
def decodeChild (nom : Combinators) (options : DecodeOptions) (root : UInt32) (field : Segment) :
    Reported ModuleLines :=
  match classify options field.bytes with
  | some layout =>
      match readChild nom options layout root field.bytes with
      | some read => do
          let record ← read
          pure { includes := [record] }
      | none => pure {}
  | none =>
      ⟨{ unclassified := [⟨field.offset, field.bytes⟩] },
        [.unclassifiedRecord field.offset field.bytes.length]⟩

/-- Decodes one chunk: its root record, then the records after it. -/
def decodeChunk (nom : Combinators) (options : DecodeOptions) (chunk : Segment) :
    Reported ModuleLines :=
  match fields chunk with
  | [] => pure {}
  | first :: rest =>
      readRoot nom options first >>= fun
        | none => pure {}
        | some root => do
            let children ← rest.mapM (decodeChild nom options root.debugNum)
            pure ({ includes := [root] } ++ ModuleLines.concat children)

/-- The chunks of a section that hold records: those before the terminator, less padding. -/
def chunks (lines : Segment) : List Segment :=
  ((lines.split chunkWidth 0).takeWhile fun chunk => !chunk.startsWithRun 0 terminatorLength)
    |>.filter fun chunk => !chunk.isAll 0

end Include

/-- Decodes the module-line section of an artifact. -/
def ModuleLines.decodeWith (nom : Combinators) (options : DecodeOptions) (lines : Segment) :
    Reported ModuleLines := do
  let parts ← (Include.chunks lines).mapM (Include.decodeChunk nom options)
  pure (ModuleLines.concat parts)

/-- Decodes the module-line section with the standard combinators. -/
def ModuleLines.decode (options : DecodeOptions) (lines : Segment) : Reported ModuleLines :=
  ModuleLines.decodeWith Combinators.standard options lines

end ListingMap
