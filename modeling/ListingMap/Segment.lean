/-!
# Segments

A segment is a run of bytes together with the offset of its first byte in the buffer it was
cut from. Sections, chunks and sub-records are all segments, and cutting keeps offsets
absolute, so every diagnostic can point back into the artifact.

The artifact marks record boundaries with sentinel bytes. `Segment.split width sentinel` walks
the bytes once, counting the sentinels in a row; a non-sentinel byte resets the count. Where the
count reaches `width` at a multiple of `width` from the start, the piece is closed there, the
sentinels staying at its tail, and the count starts again. The bytes after the last cut form a
final piece, which may be empty.
-/

namespace ListingMap

/-- Bytes cut from a larger buffer, with the offset of the first byte in that buffer. -/
structure Segment where
  /-- The bytes, in logical order. -/
  bytes : List UInt8
  /-- Where the first byte lies in the buffer the segment was cut from. -/
  offset : Nat := 0
deriving Repr, DecidableEq, Inhabited

namespace Segment

/-- The number of bytes. -/
def length (segment : Segment) : Nat := segment.bytes.length

/-- Every byte is the sentinel; an empty segment counts as all sentinel. -/
def isAll (sentinel : UInt8) (segment : Segment) : Bool :=
  segment.bytes.all (· == sentinel)

/-- The segment opens with at least `count` sentinel bytes. -/
def startsWithRun (sentinel : UInt8) (count : Nat) (segment : Segment) : Bool :=
  count ≤ segment.length && (segment.bytes.take count).all (· == sentinel)

/-- The bytes from position `start` on, as a segment of the same buffer. -/
def dropFront (start : Nat) (segment : Segment) : Segment :=
  ⟨segment.bytes.drop start, segment.offset + start⟩

/-- The first `count` bytes, as a segment of the same buffer. -/
def takeFront (count : Nat) (segment : Segment) : Segment :=
  ⟨segment.bytes.take count, segment.offset⟩

/-- The bytes from `start` up to `stop`, as a segment of the same buffer. -/
def slice (segment : Segment) (start stop : Nat) : Segment :=
  ⟨(segment.bytes.take stop).drop start, segment.offset + start⟩

/-- The bytes from `start` up to `stop`, where the range lies within the segment. Indexing out of
range stops the program, which is `none` here. -/
def slice? (segment : Segment) (start stop : Nat) : Option Segment :=
  if start ≤ stop ∧ stop ≤ segment.length then some (segment.slice start stop) else none

/-- The loop of `split` over the bytes from position `index` on. The open piece starts at
`start`, and `run` counts the sentinels that end it. -/
def splitRun (width : Nat) (sentinel : UInt8) (segment : Segment) :
    List UInt8 → (index start run : Nat) → List Segment
  | [], _, start, _ => [segment.slice start segment.length]
  | byte :: rest, index, start, run =>
      let run := if byte = sentinel then run + 1 else 0
      if width ≤ run ∧ (index + 1) % width = 0 then
        segment.slice start (index + 1) ::
          splitRun width sentinel segment rest (index + 1) (index + 1) 0
      else
        splitRun width sentinel segment rest (index + 1) start run

/-- Cuts a segment after every byte that brings the run of sentinels to `width` at a multiple of
`width` from the start. A segment shorter than `width`, and any segment when `width` is zero,
stays whole. -/
def split (width : Nat) (sentinel : UInt8) (segment : Segment) : List Segment :=
  if width = 0 ∨ segment.length < width then [segment]
  else splitRun width sentinel segment segment.bytes 0 0 0

end Segment

end ListingMap
