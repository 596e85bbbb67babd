import ListingMap.Symbol
import ListingMap.Diagnostic

/-!
# Filenames

Include records end in a NUL-terminated filename. A filename holds printable ASCII and, when
extended filenames are allowed, bytes of the high half, each shown by its code page 437 glyph.
Reading stops at the first NUL. A byte the filename may not hold also stops it, with an
`invalidByte` diagnostic at that byte's position; running off the buffer raises
`unterminatedString` at the position reading began. Either way the glyphs read so far are kept:
the result is the longest admitted prefix.
-/

namespace ListingMap

namespace Filename

/-- A filename may hold the byte: printable ASCII always, the high half when `extended`. -/
def admits (extended : Bool) (byte : UInt8) : Bool :=
  Symbol.isPrintable byte || (extended && Symbol.isExtended byte)

/-- The glyph a filename shows for an admitted byte. -/
def glyph (byte : UInt8) : Char := (Symbol.ofByte byte).glyph.getD ' '

/-- Reads glyphs from `bytes`, whose head lies at `position` of a buffer where reading began at
`start`. -/
def readFrom (extended : Bool) (start : Nat) : Nat → List UInt8 → Reported (List Char)
  | _, [] => ⟨[], [.unterminatedString start]⟩
  | position, byte :: rest =>
      if byte = 0 then
        ⟨[], []⟩
      else if admits extended byte then
        let tail := readFrom extended start (position + 1) rest
        ⟨glyph byte :: tail.value, tail.diagnostics⟩
      else
        ⟨[], [.invalidByte position byte (Symbol.ofByte byte).name]⟩

/-- Reads the filename that starts at position `start` of `buffer`. -/
def read (extended : Bool) (buffer : List UInt8) (start : Nat) : Reported String :=
  let glyphs := readFrom extended start start (buffer.drop start)
  ⟨String.ofList glyphs.value, glyphs.diagnostics⟩

end Filename

end ListingMap
