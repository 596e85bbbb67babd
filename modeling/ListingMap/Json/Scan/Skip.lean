import ListingMap.Json.Scan.Text
import ListingMap.Json.Scan.Number

/-!
# Stepping over a value

Members a record does not know are stepped over. Stepping over checks the grammar of the value
and nothing more: numbers are not computed, so `1e999` passes, and escapes are checked for
their form only.

Nested arrays and objects are tracked by a stack of the brackets still pending, innermost first.
After a value, the innermost pending bracket must be continued by a comma or closed by its own
closing bracket; after an opening bracket, its closing bracket may follow at once. An object
member is a string key, a colon and a value.
-/

namespace ListingMap

namespace Json

/-- The fault for a container left pending at the end of the text. -/
def openAtEnd (bracket : UInt8) : Fault :=
  if bracket == 91 then .eofWhileParsingList else .eofWhileParsingObject

/-- The fault for a byte that neither continues nor closes a container. -/
def neitherCommaNorEnd (bracket : UInt8) : Fault :=
  if bracket == 91 then .expectedListCommaOrEnd else .expectedObjectCommaOrEnd

/-- The closing bracket of an opening one. -/
def closing (bracket : UInt8) : UInt8 := if bracket == 91 then 93 else 125

/-- Steps over one scalar value or one opening bracket at `index` (blanks already passed):
returns the bracket opened, if any, and the index after what was read. -/
def skipToken (input : ByteArray) (index : Nat) : Scanned (Option UInt8) :=
  match input[index]? with
  | none => .error (.eofWhileParsingValue, aheadOf input index)
  | some byte =>
      let scalar (result : Scanned Unit) : Scanned (Option UInt8) :=
        result.map fun (_, after) => (none, after)
      if byte == 110 then scalar (scanWord input (index + 1) [117, 108, 108])
      else if byte == 116 then scalar (scanWord input (index + 1) [114, 117, 101])
      else if byte == 102 then scalar (scanWord input (index + 1) [97, 108, 115, 101])
      else if byte == 45 then scalar (skipNumber input (index + 1))
      else if isDigit byte then scalar (skipNumber input index)
      else if byte == 34 then scalar (skipString input (index + 1))
      else if byte == 91 || byte == 123 then .ok (some byte, index + 1)
      else .error (.expectedSomeValue, aheadOf input index)

/-- After a value inside the containers `open` (innermost first), reads commas and closing
brackets: returns the containers still pending and the index where the next value starts, or
`none` for the containers when the outermost one closed. -/
def skipClosers (input : ByteArray) : (fuel : Nat) → (pending : List UInt8) → (index : Nat) →
    Scanned (Option (List UInt8))
  | 0, pending, index => .ok (some pending, index)
  | fuel + 1, pending, index =>
      match pending with
      | [] => .ok (none, index)
      | bracket :: outer =>
          let spot := blankEnd input index
          match input[spot]? with
          | none => .error (openAtEnd bracket, aheadOf input spot)
          | some byte =>
              if byte == 44 then .ok (some pending, spot + 1)
              else if byte == closing bracket then
                match outer with
                | [] => .ok (none, spot + 1)
                | _ => skipClosers input fuel outer (spot + 1)
              else .error (neitherCommaNorEnd bracket, aheadOf input spot)

/-- Reads an object member's key and colon at `index`. -/
def skipKey (input : ByteArray) (index : Nat) : Scanned Unit :=
  let spot := blankEnd input index
  match input[spot]? with
  | none => .error (.eofWhileParsingObject, aheadOf input spot)
  | some byte =>
      if byte != 34 then .error (.keyMustBeAString, aheadOf input spot)
      else
        match skipString input (spot + 1) with
        | .error fault => .error fault
        | .ok (_, afterKey) =>
            let colon := blankEnd input afterKey
            match input[colon]? with
            | none => .error (.eofWhileParsingObject, aheadOf input colon)
            | some 58 => .ok ((), colon + 1)
            | some _ => .error (.expectedColon, aheadOf input colon)

/-- Steps over values from `index`, inside the containers `pending`, innermost first; when
`keyFirst`, a member's key and colon come before the value. -/
def skipFrom (input : ByteArray) : (fuel : Nat) → (pending : List UInt8) → (keyFirst : Bool) →
    (index : Nat) → Scanned Unit
  | 0, _, _, index => .ok ((), index)
  | fuel + 1, pending, keyFirst, index =>
      let start : Except (Fault × Nat) Nat :=
        if keyFirst then (skipKey input index).map (·.2) else .ok index
      let goOn (next : Scanned (Option (List UInt8))) : Scanned Unit :=
        match next with
        | .error fault => .error fault
        | .ok (none, after) => .ok ((), after)
        | .ok (some stillOpen, after) => skipFrom input fuel stillOpen (stillOpen.head? == some 123) after
      match start with
      | .error fault => .error fault
      | .ok valueStart =>
          match skipToken input (blankEnd input valueStart) with
          | .error fault => .error fault
          | .ok (none, after) => goOn (skipClosers input fuel pending after)
          | .ok (some bracket, after) =>
              -- an opening bracket may be closed at once; otherwise a member or element follows
              let spot := blankEnd input after
              match input[spot]? with
              | none => .error (openAtEnd bracket, aheadOf input spot)
              | some byte =>
                  if byte == closing bracket then goOn (skipClosers input fuel pending (spot + 1))
                  else skipFrom input fuel (bracket :: pending) (bracket == 123) spot

/-- Steps over one value at `index`. -/
def skipValue (input : ByteArray) (index : Nat) : Scanned Unit :=
  skipFrom input (input.size + 1) [] false index

end Json

end ListingMap
