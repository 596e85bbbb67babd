import ListingMap.Parser
import ListingMap.Segment
import ListingMap.Options
import ListingMap.Filename
import ListingMap.Include.Basic

/-!
# Include record layouts

A sub-record of the module-line section is stored back to front behind zero padding, so it is
first normalised: reversed into reading order and stripped of its leading zero bytes, which
also strips a debug number of zero. In reading order every layout starts with the debug number.

* A root record holds four words after its debug number and its filename from byte 17; a root
  whose header cannot be read, or that has no byte of filename, is reported as truncated.
* A child record of at least 20 bytes is a module-level include when byte 9 is zero and byte 10
  is one of the module-level tags; it has two tag bytes after its second word. Failing that, it
  is an inline reference when byte 5 is zero and byte 6 is the inline tag; it has two tag bytes
  after its first word. Both hold their filename from byte 19. Any other sub-record is
  unclassified.

Headers are read with the combinators of `ListingMap.Parser`, taken as a parameter.
-/

namespace ListingMap

namespace Include

/-- A stored sub-record in reading order: reversed, without the leading zero bytes. -/
def normalize (stored : List UInt8) : List UInt8 := stored.reverse.dropWhile (· == 0)

/-- The position of a root record's filename. -/
def rootNameStart : Nat := 17

/-- The position of a child record's filename. -/
def childNameStart : Nat := 19

/-- The layouts a record after a chunk's root can have. -/
inductive ChildLayout where
  /-- A module-level include. -/
  | fileBoundary
  /-- An inline reference to an include under the chunk's root. -/
  | inlineRef
deriving Repr, DecidableEq, Inhabited

/-- The include kind a child layout stands for. -/
def ChildLayout.kind : ChildLayout → IncludeKind
  | .fileBoundary => .fileBoundary
  | .inlineRef => .inlineRef

/-- The number of header words before the tag of a child layout. -/
def ChildLayout.tagAfter : ChildLayout → Nat
  | .fileBoundary => 2
  | .inlineRef => 1

/-- The child layout a normalised sub-record matches, if any. -/
def classify (options : DecodeOptions) (field : List UInt8) : Option ChildLayout :=
  if childNameStart < field.length then
    if field.getD 9 1 == 0 && options.moduleLevelTags.contains (field.getD 10 0) then
      some .fileBoundary
    else if field.getD 5 1 == 0 && field.getD 6 0 == options.inlineTag then
      some .inlineRef
    else
      none
  else
    none

/-- The header of a record in reading order: its debug number and four words. A child layout has
two tag bytes after its first `tagAfter` words. -/
def header (nom : Combinators) (tagAfter : Option Nat) : Parser (UInt8 × Vector UInt32 4) :=
  fun input => do
    let (input, debugNum) ← nom.u8 input
    let (input, first) ← nom.u32 input
    let (input, _) ← tag 1 input
    let (input, second) ← nom.u32 input
    let (input, _) ← tag 2 input
    let (input, third) ← nom.u32 input
    let (input, fourth) ← nom.u32 input
    pure (input, debugNum, #v[first, second, third, fourth])
where
  /-- The tag bytes, where the layout has them after `words` words. -/
  tag (words : Nat) : Parser (List UInt8) := fun input =>
    if tagAfter = some words then nom.take 2 input else .ok (input, [])

/-- Reads a root record, which holds its header and at least one byte of filename. Otherwise
the record is reported as truncated, at the offset of its stored bytes, and nothing is read. -/
def readRoot (nom : Combinators) (options : DecodeOptions) (field : Segment) :
    Reported (Option IncludeRecord) :=
  match header nom none field.bytes, decide (rootNameStart < field.bytes.length) with
  | .ok (_, debugNum, words), true => do
      let name ← Filename.read options.extendedFilenames field.bytes rootNameStart
      pure (some {
        parentDebugNum := 0
        debugNum := debugNum.toUInt32
        words
        sourceFilename := name
        kind := .root })
  | _, _ => ⟨none, [.truncatedRecord field.offset field.bytes.length]⟩

/-- Reads a child record in the given layout; an inline reference belongs under `root`. A
header the layout cannot read gives no record, and reports nothing. -/
def readChild (nom : Combinators) (options : DecodeOptions) (layout : ChildLayout) (root : UInt32)
    (field : List UInt8) : Option (Reported IncludeRecord) :=
  match header nom (some layout.tagAfter) field with
  | .error _ => none
  | .ok (_, debugNum, words) => some do
      let name ← Filename.read options.extendedFilenames field childNameStart
      pure {
        parentDebugNum := match layout with
          | .fileBoundary => 0
          | .inlineRef => root
        debugNum := debugNum.toUInt32
        words
        sourceFilename := name
        kind := layout.kind }

end Include

end ListingMap
