import ListingMap.Json.Scan.Basic

/-!
# Strings

A string runs from its opening quote to the next quote that is not escaped. Control
characters may not appear in it. An escape is a backslash followed by one of `"`, `\`, `/`,
`b`, `f`, `n`, `r`, `t`, or by `u` and four hexadecimal digits.

`scanString` reads a string that a value is made from, so every escape must stand for a
character: a high surrogate must be followed at once by `\u` and a low surrogate, and a low
surrogate alone is refused. `skipString` reads a string that is only stepped over, and checks
escapes for their form only.
-/

namespace ListingMap

namespace Json

/-- The value of a hexadecimal digit. -/
def hexValue (byte : UInt8) : Option Nat :=
  if isDigit byte then some (byte.toNat - 48)
  else if 97 ≤ byte && byte ≤ 102 then some (byte.toNat - 87)
  else if 65 ≤ byte && byte ≤ 70 then some (byte.toNat - 55)
  else none

/-- Reads four hexadecimal digits; when fewer than four bytes remain the string has no end. -/
def scanHex4 (input : ByteArray) (index : Nat) : Scanned Nat :=
  if index + 4 ≤ input.size then
    let digits := (List.range 4).map fun k => input[index + k]?.bind hexValue
    match digits with
    | [some a, some b, some c, some d] => .ok (((a * 16 + b) * 16 + c) * 16 + d, index + 4)
    | _ => .error (.invalidEscape, index + 4)
  else .error (.eofWhileParsingString, input.size)

/-- The UTF-8 bytes of a code point. -/
def utf8Bytes (code : Nat) : List UInt8 :=
  (String.singleton (Char.ofNat code)).toUTF8.toList

/-- Reads what follows `\u` in a string a value is made from, pairing surrogates. -/
def scanUnicodeEscape (input : ByteArray) (index : Nat) : Scanned (List UInt8) :=
  match scanHex4 input index with
  | .error fault => .error fault
  | .ok (first, afterFirst) =>
      if 0xDC00 ≤ first && first ≤ 0xDFFF then
        .error (.loneLeadingSurrogateInHexEscape, afterFirst)
      else if first < 0xD800 || first > 0xDBFF then
        .ok (utf8Bytes first, afterFirst)
      else
        match input[afterFirst]?, input[afterFirst + 1]? with
        | none, _ => .error (.eofWhileParsingString, afterFirst)
        | some backslash, next =>
            if backslash != 92 then .error (.unexpectedEndOfHexEscape, afterFirst + 1)
            else
              match next with
              | none => .error (.eofWhileParsingString, afterFirst + 1)
              | some u =>
                  if u != 117 then .error (.unexpectedEndOfHexEscape, afterFirst + 2)
                  else
                    match scanHex4 input (afterFirst + 2) with
                    | .error fault => .error fault
                    | .ok (second, afterSecond) =>
                        if second < 0xDC00 || second > 0xDFFF then
                          .error (.loneLeadingSurrogateInHexEscape, afterSecond)
                        else
                          .ok (utf8Bytes ((first - 0xD800) * 1024 + (second - 0xDC00) + 0x10000),
                            afterSecond)

/-- Reads the escape after a backslash; `strict` when a value is made from the string. -/
def scanEscape (strict : Bool) (input : ByteArray) (index : Nat) : Scanned (List UInt8) :=
  match input[index]? with
  | none => .error (.eofWhileParsingString, index)
  | some byte =>
      let after := index + 1
      if byte == 34 || byte == 92 || byte == 47 then .ok ([byte], after)
      else if byte == 98 then .ok ([8], after)
      else if byte == 102 then .ok ([12], after)
      else if byte == 110 then .ok ([10], after)
      else if byte == 114 then .ok ([13], after)
      else if byte == 116 then .ok ([9], after)
      else if byte == 117 then
        if strict then scanUnicodeEscape input after
        else (scanHex4 input after).map fun (_, next) => ([], next)
      else .error (.invalidEscape, after)

/-- Reads the rest of a string after its opening quote, collecting its UTF-8 bytes; `strict`
when a value is made from it. -/
def scanStringBytes (strict : Bool) (input : ByteArray) (index : Nat) (collected : Array UInt8) :
    Scanned (Array UInt8) :=
  if h : index < input.size then
    let byte := input[index]
    if byte == 34 then .ok (collected, index + 1)
    else if byte == 92 then
      match scanEscape strict input (index + 1) with
      | .error fault => .error fault
      | .ok (bytes, after) =>
          if index < after then scanStringBytes strict input after (collected ++ bytes.toArray)
          else .ok (collected, after)
    else if byte < 32 then
      .error (.controlCharacterWhileParsingString, if strict then index + 1 else index)
    else scanStringBytes strict input (index + 1) (collected.push byte)
  else .error (.eofWhileParsingString, index)
termination_by input.size - index

/-- Reads the rest of a string after its opening quote, as the text it stands for; bytes that
are no UTF-8 text are refused once the string is read. -/
def scanString (input : ByteArray) (index : Nat) : Scanned String :=
  match scanStringBytes true input index #[] with
  | .error fault => .error fault
  | .ok (bytes, after) =>
      match String.fromUTF8? (ByteArray.mk bytes) with
      | some text => .ok (text, after)
      | none => .error (.invalidUnicodeCodePoint, after)

/-- Steps over the rest of a string after its opening quote. -/
def skipString (input : ByteArray) (index : Nat) : Scanned Unit :=
  (scanStringBytes false input index #[]).map fun (_, after) => ((), after)

end Json

end ListingMap
