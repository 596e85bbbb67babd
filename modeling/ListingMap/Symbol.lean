/-!
# Byte symbols

Every byte value has a symbol: the name a diagnostic uses to point at the byte, and the glyph,
if any, that a filename shows for it. Control bytes carry their mnemonic, the space is `SP`,
printable ASCII is its own character in quotes, 127 is `DEL`, and each byte of the high half is
named by its hexadecimal value together with the glyph that code page 437 draws for it.

Printable bytes are 32 to 126; the high half, 128 to 255, is the extended range that a reader
may admit into filenames.
-/

namespace ListingMap

/-- What a byte reads as: the name diagnostics give it, and the glyph drawn for it. -/
structure Symbol where
  /-- The name used when a diagnostic points at the byte. -/
  name : String
  /-- The character shown for the byte; control bytes and `DEL` have none. -/
  glyph : Option Char
deriving Repr, DecidableEq, Inhabited

namespace Symbol

/-- The mnemonics of the control bytes 0 to 31, in byte order. -/
def controlNames : Array String :=
  #["NUL", "SOH", "STX", "ETX", "EOT", "ENQ", "ACK", "BEL", "BS", "HT", "LF", "VT", "FF", "CR",
    "SO", "SI", "DLE", "DC1", "DC2", "DC3", "DC4", "NAK", "SYN", "ETB", "CAN", "EM", "SUB", "ESC",
    "FS", "GS", "RS", "US"]

/-- The glyphs code page 437 draws for the bytes 128 to 255, in byte order. -/
def highGlyphs : Array Char :=
  ("ÇüéâäàåçêëèïîìÄÅ" ++ "ÉæÆôöòûùÿÖÜ¢£¥₧ƒ" ++ "áíóúñÑªº¿⌐¬½¼¡«»" ++ "░▒▓│┤╡╢╖╕╣║╗╝╜╛┐" ++
    "└┴┬├─┼╞╟╚╔╩╦╠═╬╧" ++ "╨╤╥╙╘╒╓╫╪┘┌█▄▌▐▀" ++ "αßΓπΣσµτΦΘΩδ∞φε∩" ++ "≡±≥≤⌠⌡÷≈°∙·√ⁿ²■\u00A0").toList.toArray

/-- A byte is printable when it is a visible ASCII character or the space. -/
def isPrintable (byte : UInt8) : Bool := 32 ≤ byte && byte ≤ 126

/-- A byte is extended when it lies in the high half, where code page 437 draws glyphs. -/
def isExtended (byte : UInt8) : Bool := 128 ≤ byte

/-- The uppercase hexadecimal digit of a value below sixteen. -/
def upperHexDigit (value : Nat) : Char :=
  if value < 10 then Char.ofNat (48 + value) else Char.ofNat (55 + value)

/-- A byte as exactly two uppercase hexadecimal digits. -/
def upperHex (byte : UInt8) : String :=
  String.ofList [upperHexDigit (byte.toNat / 16), upperHexDigit (byte.toNat % 16)]

/-- The single quote that symbol names put around a glyph. -/
def quoteMark : Char := Char.ofNat 39

/-- A character between single quotes, as symbol names show glyphs. -/
def quoted (glyph : Char) : String := String.ofList [quoteMark, glyph, quoteMark]

/-- The symbol of a byte. -/
def ofByte (byte : UInt8) : Symbol :=
  if byte < 32 then
    ⟨controlNames.getD byte.toNat "", none⟩
  else if byte = 32 then
    ⟨"SP", some ' '⟩
  else if byte < 127 then
    let glyph := Char.ofNat byte.toNat
    ⟨quoted glyph, some glyph⟩
  else if byte = 127 then
    ⟨"DEL", none⟩
  else
    let glyph := highGlyphs.getD (byte.toNat - 128) ' '
    ⟨"x" ++ upperHex byte ++ " " ++ quoted glyph, some glyph⟩

end Symbol

end ListingMap
