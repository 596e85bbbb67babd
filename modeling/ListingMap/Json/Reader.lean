import ListingMap.Json.Scan.Skip

/-!
# Reading typed values from a JSON document

A reader takes a value of a known shape from a document, front to back, and stops at the first
fault. The shape decides which faults arise and where:

* a value of the wrong kind is reported after the reader has stepped over it, naming its kind
  (`invalidType`); a number out of range for its type likewise (`invalidValue`);
* a record may be written as an object or as an array of its fields in order. In an object,
  unknown members are stepped over, a member given twice is an error as soon as its key is
  read, and a missing member is an error once the object is read, unless the record has
  defaults. In an array, too few elements are an error unless the record has defaults;
* a fault that arises from the shape rather than the text is placed where the reader stands
  when the enclosing value is complete: after its closing bracket, if there is one.

Reading keeps the position reached even when it fails, so that the closing bracket of a
record is still read after a fault inside it, as the placement above needs.
-/

namespace ListingMap

namespace Json

/-- A reader of a document: the bytes are its context, the index of the next byte its state,
and a fault ends it while keeping the index reached. -/
abbrev ReadM := ExceptT Error (ReaderT ByteArray (StateM Nat))

/-- The next byte, without taking it. -/
def peek : ReadM (Option UInt8) := do
  let input ← read
  return input[← get]?

/-- Takes the next byte. -/
def bump : ReadM Unit := modify (· + 1)

/-- Passes blanks and returns the next byte, without taking it. -/
def blanks : ReadM (Option UInt8) := do
  set (blankEnd (← read) (← get))
  peek

/-- Fails where the reader stands. -/
def failHere {α : Type} (fault : Fault) : ReadM α := do
  throw ⟨fault, some (Position.ofIndex (← read) (← get))⟩

/-- Fails just after the next byte, which was looked at and not taken. -/
def failAhead {α : Type} (fault : Fault) : ReadM α := do
  let input ← read
  throw ⟨fault, some (Position.ofIndex input (aheadOf input (← get)))⟩

/-- Runs a scanner from where the reader stands. -/
def scan {α : Type} (scanner : ByteArray → Nat → Scanned α) : ReadM α := do
  let input ← read
  match scanner input (← get) with
  | .ok (value, after) => set after; pure value
  | .error (fault, spot) => set spot; throw ⟨fault, some (Position.ofIndex input spot)⟩

/-- Runs a reader and gives its fault a position, where the reader stands, if it has none. -/
def placing {α : Type} (reader : ReadM α) : ReadM α :=
  tryCatch reader fun error => do
    match error.position with
    | some _ => throw error
    | none => throw { error with position := some (Position.ofIndex (← read) (← get)) }

/-- Runs a reader and returns its outcome, keeping the position it reached either way. -/
def attempt {α : Type} (reader : ReadM α) : ReadM (Except Error α) :=
  tryCatch (Except.ok <$> reader) fun error => pure (.error error)

/-- Fails without a position, for a fault of the shape rather than the text. -/
def failShape {α : Type} (fault : Fault) : ReadM α := throw ⟨fault, none⟩

/-- Steps over the value where the reader stands, which is not of the kind `expected`, and
fails naming what it is. -/
def wrongKind {α : Type} (expected : String) : ReadM α := do
  let found ← match (← peek).getD 0 with
    | 110 => do bump; scan fun input index => scanWord input index [117, 108, 108]; pure Found.null
    | 116 => do bump; scan fun input index => scanWord input index [114, 117, 101]; pure (Found.bool true)
    | 102 => do bump; scan fun input index => scanWord input index [97, 108, 115, 101]; pure (Found.bool false)
    | 45 => do bump; pure (← scan (scanNumber false)).found
    | 34 => do bump; pure (Found.string (← scan scanString))
    | 91 => pure Found.sequence
    | 123 => pure Found.map
    | byte => if isDigit byte then do pure (← scan (scanNumber true)).found else failAhead .expectedSomeValue
  placing (failShape (.invalidType found expected))

/-- Reads a natural number up to `limit`; `expected` names the type in messages. -/
def readNat (limit : Nat) (expected : String) : ReadM Nat := placing do
  let number ← match ← blanks with
    | none => failAhead .eofWhileParsingValue
    | some 45 => do bump; scan (scanNumber false)
    | some byte => if isDigit byte then scan (scanNumber true) else wrongKind expected
  match number with
  | .unsigned value => if value ≤ limit then pure value else failShape (.invalidValue (.unsigned value) expected)
  | .signed value => failShape (.invalidValue (.signed value) expected)
  | .float value => failShape (.invalidType (.float value) expected)

/-- Reads `true` or `false`. -/
def readBool : ReadM Bool := placing do
  match ← blanks with
  | none => failAhead .eofWhileParsingValue
  | some 116 => bump; scan (fun input index => scanWord input index [114, 117, 101]); pure true
  | some 102 => bump; scan (fun input index => scanWord input index [97, 108, 115, 101]); pure false
  | some _ => wrongKind "a boolean"

/-- Reads a string; `expected` names the type in messages. -/
def readString (expected : String) : ReadM String := placing do
  match ← blanks with
  | none => failAhead .eofWhileParsingValue
  | some 34 => bump; scan scanString
  | some _ => wrongKind expected

/-- Steps over the value where the reader stands. -/
def skip : ReadM Unit := scan skipValue

/-- The next element of an array, or `none` at its closing bracket, which is not taken. -/
def nextElement {α : Type} (first : Bool) (element : ReadM α) : ReadM (Option α) := do
  match ← blanks with
  | some 93 => pure none
  | none => failAhead .eofWhileParsingList
  | some byte =>
      let start ← if byte == 44 && !first then do bump; blanks
        else if first then pure (some byte) else failAhead .expectedListCommaOrEnd
      match start with
      | some 93 => failAhead .trailingComma
      | some _ => some <$> element
      | none => failAhead .eofWhileParsingValue

/-- The key of the next member of an object, or `none` at its closing brace, which is not
taken. -/
def nextKey (first : Bool) : ReadM (Option String) := do
  match ← blanks with
  | some 125 => pure none
  | none => failAhead .eofWhileParsingObject
  | some byte =>
      let start ← if byte == 44 && !first then do bump; blanks
        else if first then pure (some byte) else failAhead .expectedObjectCommaOrEnd
      match start with
      | some 34 => do bump; some <$> scan scanString
      | some 125 => failAhead .trailingComma
      | some _ => failAhead .keyMustBeAString
      | none => failAhead .eofWhileParsingValue

/-- Reads the colon between a key and its value. -/
def colon : ReadM Unit := do
  match ← blanks with
  | some 58 => bump
  | some _ => failAhead .expectedColon
  | none => failAhead .eofWhileParsingObject

/-- Reads the end of an array whose elements are read. -/
def closeArray : ReadM Unit := do
  match ← blanks with
  | some 93 => bump
  | some 44 =>
      bump
      match ← blanks with
      | some 93 => failAhead .trailingComma
      | _ => failAhead .trailingCharacters
  | some _ => failAhead .trailingCharacters
  | none => failAhead .eofWhileParsingList

/-- Reads the end of an object whose members are read. -/
def closeObject : ReadM Unit := do
  match ← blanks with
  | some 125 => bump
  | some 44 => failAhead .trailingComma
  | some _ => failAhead .trailingCharacters
  | none => failAhead .eofWhileParsingObject

/-- Runs the reader of a container's content, then reads the container's end even if the
content failed; the content's fault comes first. -/
def enclosed {α : Type} (content : ReadM α) (close : ReadM Unit) : ReadM α := do
  let result ← attempt content
  let ending ← attempt close
  match result, ending with
  | .ok value, .ok () => pure value
  | .error error, _ => throw error
  | _, .error error => throw error

/-- Reads the elements of an array after its opening bracket, at most `fuel` of them. -/
def elements {α : Type} (element : ReadM α) : (fuel : Nat) → (first : Bool) → (taken : List α) →
    ReadM (List α)
  | 0, _, taken => pure taken.reverse
  | fuel + 1, first, taken => do
      match ← nextElement first element with
      | none => pure taken.reverse
      | some value => elements element fuel false (value :: taken)

/-- Reads an array of values. -/
def readList {α : Type} (element : ReadM α) : ReadM (List α) := placing do
  match ← blanks with
  | none => failAhead .eofWhileParsingValue
  | some 91 =>
      bump
      let fuel := (← read).size + 1
      enclosed (elements element fuel true []) closeArray
  | some _ => wrongKind "a sequence"

/-- How a record is read: its name, its fields in order, the draft its fields are read into,
and how the draft becomes the record. -/
structure RecordForm (σ α : Type) where
  /-- The record's name in messages. -/
  name : String
  /-- The field names, in the order an array lists their values. -/
  fields : List String
  /-- Whether absent fields take default values instead of being errors. -/
  defaults : Bool
  /-- The draft before any field is read. -/
  empty : σ
  /-- Whether the field at this position is in the draft. -/
  has : σ → Nat → Bool
  /-- Reads the value of the field at this position into the draft. -/
  readField : Nat → σ → ReadM σ
  /-- The record, or the name of the first field it lacks. -/
  finish : σ → Except String α

namespace RecordForm

/-- How messages describe the record when written as an array. -/
def arrayName {σ α : Type} (form : RecordForm σ α) : String :=
  let count := form.fields.length
  s!"struct {form.name} with {count} element" ++ (if count == 1 then "" else "s")

/-- Reads the fields of a record written as an array, from `position` on. -/
def positional {σ α : Type} (form : RecordForm σ α) : (remaining position : Nat) → σ → ReadM σ
  | 0, _, draft => pure draft
  | remaining + 1, position, draft => do
      match ← nextElement (position == 0) (form.readField position draft) with
      | some next => positional form remaining (position + 1) next
      | none =>
          if form.defaults then pure draft
          else failShape (.invalidLength position form.arrayName)

/-- Reads the members of a record written as an object, at most `fuel` of them. -/
def members {σ α : Type} (form : RecordForm σ α) : (fuel : Nat) → (first : Bool) → σ → ReadM σ
  | 0, _, draft => pure draft
  | fuel + 1, first, draft => do
      match ← nextKey first with
      | none => pure draft
      | some key =>
          match form.fields.findIdx? (· == key) with
          | some position =>
              if form.has draft position then failShape (.duplicateField key)
              else do
                colon
                members form fuel false (← form.readField position draft)
          | none => do
              colon
              skip
              members form fuel false draft

/-- The record from a complete draft. -/
def complete {σ α : Type} (form : RecordForm σ α) (draft : σ) : ReadM α :=
  match form.finish draft with
  | .ok record => pure record
  | .error field => failShape (.missingField field)

end RecordForm

/-- Reads a record written as an object or as an array. -/
def readRecord {σ α : Type} (form : RecordForm σ α) : ReadM α := placing do
  match ← blanks with
  | none => failAhead .eofWhileParsingValue
  | some 91 =>
      bump
      enclosed (do form.complete (← form.positional form.fields.length 0 form.empty)) closeArray
  | some 123 =>
      bump
      let fuel := (← read).size + 1
      enclosed (do form.complete (← form.members fuel true form.empty)) closeObject
  | some _ => wrongKind ("struct " ++ form.name)

/-- Reads a whole document from its bytes: one value and nothing but blanks after it. -/
def readDocumentBytes {α : Type} (reader : ReadM α) (input : ByteArray) : Except Error α :=
  let whole : ReadM α := do
    let value ← reader
    match ← blanks with
    | some _ => failAhead .trailingCharacters
    | none => pure value
  (((whole.run).run input).run 0).1

/-- Reads a whole document from its text. -/
def readDocument {α : Type} (reader : ReadM α) (text : String) : Except Error α :=
  readDocumentBytes reader text.toUTF8

end Json

end ListingMap
