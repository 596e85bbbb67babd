import ListingMap.Decimal.Shortest
import ListingMap.Unicode.Escaped

/-!
# Errors reading a JSON document

A document is read in one pass, and the first fault found ends the reading. An `Error` names
the fault and, once known, the position where it was found: a line counted from one and a
column counted in bytes from the start of that line, so that the first byte of a line is at
column zero. Faults of the text (a missing colon, a stray character) are `grammar` errors; a
document that stops early is an `endOfInput` error; a well-formed document whose values do not
fit the shape asked for gives a `shape` error.

A data error names what was found by its JSON kind (`Found`) and what was expected. Numbers
found are shown as read: integers in decimal, others in their shortest decimal form with at
least one digit after the point (`1.5`, `100000.0`, `1e30`, `1.5e-7`).
-/

namespace ListingMap

namespace Json

/-- A line and a byte column in a document. -/
structure Position where
  /-- The line, counted from one. -/
  line : Nat
  /-- The number of bytes before the position on its line. -/
  column : Nat
deriving Repr, DecidableEq, Inhabited

/-- The position of the byte at `index`. -/
def Position.ofIndex (input : ByteArray) (index : Nat) : Position :=
  let before := (input.extract 0 index).toList
  ⟨1 + before.count 10, (before.reverse.takeWhile (· != 10)).length⟩

/-- A value met where another kind of value was expected. -/
inductive Found where
  | null
  | bool (value : Bool)
  | unsigned (value : Nat)
  | signed (value : Int)
  | float (value : Float)
  | string (value : String)
  | sequence
  | map
deriving Inhabited

/-- The three kinds of fault. -/
inductive Category where
  /-- The text breaks the JSON grammar. -/
  | grammar
  /-- The text stops before the document is complete. -/
  | endOfInput
  /-- A well-formed value does not fit the shape asked for. -/
  | shape
deriving Repr, DecidableEq, Inhabited

/-- A fault found while reading a document. -/
inductive Fault where
  | eofWhileParsingList
  | eofWhileParsingObject
  | eofWhileParsingString
  | eofWhileParsingValue
  | expectedColon
  | expectedListCommaOrEnd
  | expectedObjectCommaOrEnd
  | expectedSomeIdent
  | expectedSomeValue
  | invalidEscape
  | invalidNumber
  | numberOutOfRange
  | controlCharacterWhileParsingString
  | keyMustBeAString
  | loneLeadingSurrogateInHexEscape
  | trailingComma
  | trailingCharacters
  | unexpectedEndOfHexEscape
  | invalidUnicodeCodePoint
  /-- A value of the wrong kind. -/
  | invalidType (found : Found) (expected : String)
  /-- A value of the right kind that is out of range. -/
  | invalidValue (found : Found) (expected : String)
  /-- A record written as an array with too few elements. -/
  | invalidLength (length : Nat) (expected : String)
  /-- A record written as an object without a required member. -/
  | missingField (name : String)
  /-- A record written as an object with a member given twice. -/
  | duplicateField (name : String)
deriving Inhabited

/-- A fault, with the position where it was found once that is known. -/
structure Error where
  /-- What is wrong. -/
  fault : Fault
  /-- Where it was found. -/
  position : Option Position := none
deriving Inhabited

/-- The exponent part of a float written in scientific form: `e`, a sign that is `-` for a
negative power and `+` otherwise, and the decimal digits of the power. -/
def exponentText (power : Int) : List Char :=
  'e' :: (if power < 0 then '-' else '+') :: (Nat.repr power.natAbs).toList

/-- How a float found in a document is written: the shortest digits that read back, written
positionally with `.0` for whole numbers when the leading digit's power is between `-5` and
`15`, and as digits with a signed exponent after `e` otherwise. -/
def floatText (value : Float) : String :=
  let bits := value.toBits
  let sign := if bits >>> 63 == 1 then "-" else ""
  let magnitude := bits &&& 0x7FFFFFFFFFFFFFFF
  if magnitude == 0 then sign ++ "0.0"
  else if magnitude >>> 52 == 0x7FF then
    (if magnitude &&& 0xFFFFFFFFFFFFF == 0 then sign ++ "inf" else "NaN")
  else
    let decimal := Decimal.shortest (Decimal.Binary.ofBits magnitude)
    let digits := (Nat.repr decimal.digits).toList
    let length : Int := digits.length
    let scale := length + decimal.exponent
    let text : List Char :=
      if 0 ≤ decimal.exponent && scale ≤ 16 then
        digits ++ List.replicate decimal.exponent.toNat '0' ++ ['.', '0']
      else if 0 < scale && scale ≤ 16 then
        digits.take scale.toNat ++ '.' :: digits.drop scale.toNat
      else if -5 < scale && scale ≤ 0 then
        '0' :: '.' :: List.replicate (-scale).toNat '0' ++ digits
      else if length == 1 then
        digits ++ exponentText (scale - 1)
      else
        digits.take 1 ++ '.' :: digits.drop 1 ++ exponentText (scale - 1)
    sign ++ String.ofList text

/-- A string as messages quote it: between double quotes, with `\t`, `\r`, `\n`, `\0`, `\"`
and `\\` escaped and the other characters of `Unicode.isEscaped` written as `\u` and their
hexadecimal code in braces. -/
def quoteInMessage (text : String) : String :=
  let escape (c : Char) : List Char :=
    if c == '\t' then ['\\', 't']
    else if c == '\r' then ['\\', 'r']
    else if c == '\n' then ['\\', 'n']
    else if c.toNat == 0 then ['\\', '0']
    else if c == '"' then ['\\', '"']
    else if c == '\\' then ['\\', '\\']
    else if Unicode.isEscaped c then
      ['\\', 'u', Char.ofNat 123] ++ (Nat.toDigits 16 c.toNat) ++ [Char.ofNat 125]
    else [c]
  String.ofList ('"' :: text.toList.flatMap escape ++ ['"'])

/-- How a message names a value found. -/
def Found.text : Found → String
  | .null => "null"
  | .bool value => s!"boolean \x60{value}\x60"
  | .unsigned value => s!"integer \x60{value}\x60"
  | .signed value => s!"integer \x60{value}\x60"
  | .float value => "floating point \x60" ++ floatText value ++ "\x60"
  | .string value => "string " ++ quoteInMessage value
  | .sequence => "sequence"
  | .map => "map"

namespace Fault

/-- The text of a fault. -/
def text : Fault → String
  | eofWhileParsingList => "EOF while parsing a list"
  | eofWhileParsingObject => "EOF while parsing an object"
  | eofWhileParsingString => "EOF while parsing a string"
  | eofWhileParsingValue => "EOF while parsing a value"
  | expectedColon => "expected \x60:\x60"
  | expectedListCommaOrEnd => "expected \x60,\x60 or \x60]\x60"
  | expectedObjectCommaOrEnd => "expected \x60,\x60 or \x60\x7d\x60"
  | expectedSomeIdent => "expected ident"
  | expectedSomeValue => "expected value"
  | invalidEscape => "invalid escape"
  | invalidNumber => "invalid number"
  | numberOutOfRange => "number out of range"
  | controlCharacterWhileParsingString =>
      "control character (\\u0000-\\u001F) found while parsing a string"
  | keyMustBeAString => "key must be a string"
  | loneLeadingSurrogateInHexEscape => "lone leading surrogate in hex escape"
  | trailingComma => "trailing comma"
  | trailingCharacters => "trailing characters"
  | unexpectedEndOfHexEscape => "unexpected end of hex escape"
  | invalidUnicodeCodePoint => "invalid unicode code point"
  | invalidType found expected => "invalid type: " ++ found.text ++ ", expected " ++ expected
  | invalidValue found expected => "invalid value: " ++ found.text ++ ", expected " ++ expected
  | invalidLength length expected => s!"invalid length {length}, expected " ++ expected
  | missingField name => "missing field \x60" ++ name ++ "\x60"
  | duplicateField name => "duplicate field \x60" ++ name ++ "\x60"

/-- The kind of a fault. -/
def category : Fault → Category
  | eofWhileParsingList | eofWhileParsingObject | eofWhileParsingString
  | eofWhileParsingValue => .endOfInput
  | invalidType .. | invalidValue .. | invalidLength .. | missingField ..
  | duplicateField .. => .shape
  | _ => .grammar

end Fault

/-- The one-line text of an error: the fault, then its position. -/
def Error.message (error : Error) : String :=
  match error.position with
  | some position => error.fault.text ++ s!" at line {position.line} column {position.column}"
  | none => error.fault.text

end Json

end ListingMap
