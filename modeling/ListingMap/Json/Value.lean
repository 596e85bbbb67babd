/-!
# JSON documents

The persisted form of a source map, and what the command line prints, are JSON documents.
`Json.Value` is such a document; its numbers are natural numbers, the only numbers this library
writes, and its objects keep their members in the order given.

`Value.render` writes a document with no blanks. `Value.renderPretty` writes each member and
element on its own line, indented by two spaces per level, with `": "` after keys; empty
arrays and objects stay on one line. In strings only the quote, the backslash and control
characters are escaped: `\b \f \n \r \t` by their short forms, other control characters as
`\u00XX` with lowercase hexadecimal digits. Every other character is written as itself.
-/

namespace ListingMap

namespace Json

/-- A JSON document. -/
inductive Value where
  | null
  | bool (value : Bool)
  | number (value : Nat)
  | string (value : String)
  | array (elements : List Value)
  | object (members : List (String × Value))
deriving Repr, Inhabited

/-- The lowercase hexadecimal digit of a value below sixteen. -/
def hexDigit (value : Nat) : Char :=
  if value < 10 then Char.ofNat (48 + value) else Char.ofNat (87 + value)

/-- How one character is written inside a string. -/
def escapeChar (c : Char) : List Char :=
  if c == '"' then ['\\', '"']
  else if c == '\\' then ['\\', '\\']
  else if c == '\n' then ['\\', 'n']
  else if c == '\r' then ['\\', 'r']
  else if c == '\t' then ['\\', 't']
  else if c.toNat == 8 then ['\\', 'b']
  else if c.toNat == 12 then ['\\', 'f']
  else if c.toNat < 32 then ['\\', 'u', '0', '0', hexDigit (c.toNat / 16), hexDigit (c.toNat % 16)]
  else [c]

/-- A string as written in a document, quotes included. -/
def quote (text : String) : String :=
  String.ofList ('"' :: text.toList.flatMap escapeChar ++ ['"'])

/-- The opening brace of an object. -/
def openBrace : String := "\x7b"

/-- The closing brace of an object. -/
def closeBrace : String := "\x7d"

namespace Value

mutual

/-- Writes a document with no blanks. -/
def render : Value → String
  | null => "null"
  | bool value => if value then "true" else "false"
  | number value => toString value
  | string value => quote value
  | array elements => "[" ++ ",".intercalate (renderElements elements) ++ "]"
  | object members => openBrace ++ ",".intercalate (renderMembers members) ++ closeBrace

/-- Each element written with no blanks. -/
def renderElements : List Value → List String
  | [] => []
  | element :: rest => render element :: renderElements rest

/-- Each member written as `"key":value` with no blanks. -/
def renderMembers : List (String × Value) → List String
  | [] => []
  | (key, member) :: rest => (quote key ++ ":" ++ render member) :: renderMembers rest

end

mutual

/-- Writes a document one member or element per line, `indent` being the current margin. -/
def renderPrettyAt (indent : String) : Value → String
  | array [] => "[]"
  | array (first :: rest) =>
      let inner := indent ++ "  "
      "[\n" ++ ",\n".intercalate (prettyElements inner (first :: rest)) ++ "\n" ++ indent ++ "]"
  | object [] => openBrace ++ closeBrace
  | object (first :: rest) =>
      let inner := indent ++ "  "
      openBrace ++ "\n" ++ ",\n".intercalate (prettyMembers inner (first :: rest)) ++ "\n" ++
        indent ++ closeBrace
  | null => "null"
  | bool value => if value then "true" else "false"
  | number value => toString value
  | string value => quote value

/-- Each element on its own line at margin `indent`. -/
def prettyElements (indent : String) : List Value → List String
  | [] => []
  | element :: rest => (indent ++ renderPrettyAt indent element) :: prettyElements indent rest

/-- Each member on its own line at margin `indent`, as `"key": value`. -/
def prettyMembers (indent : String) : List (String × Value) → List String
  | [] => []
  | (key, member) :: rest =>
      (indent ++ quote key ++ ": " ++ renderPrettyAt indent member) :: prettyMembers indent rest

end

/-- Writes a document one member or element per line, indented by two spaces per level. -/
def renderPretty (value : Value) : String := renderPrettyAt "" value

end Value

end Json

end ListingMap
