import ListingMap.Json.Error

/-!
# Scanning JSON text

A scanner reads a document's bytes from an index on. It returns what it read and the index of
the first byte after it, or the fault it met and the index of the position to report it at.
Two positions are used: the byte where reading stopped, and, for a fault seen by looking at a
byte without taking it, the position just after that byte (never past the end).

Blanks between tokens are the space, tab, line feed and carriage return.
-/

namespace ListingMap

namespace Json

/-- What a scanner returns: the value and the index after it, or the fault and the index it
is reported at. -/
abbrev Scanned (α : Type) := Except (Fault × Nat) (α × Nat)

/-- A byte is a decimal digit. -/
def isDigit (byte : UInt8) : Bool := 48 ≤ byte && byte ≤ 57

/-- A byte is a blank between tokens. -/
def isBlank (byte : UInt8) : Bool := byte == 32 || byte == 10 || byte == 9 || byte == 13

/-- The position reported for a fault seen at `index` without taking the byte there. -/
def aheadOf (input : ByteArray) (index : Nat) : Nat := min input.size (index + 1)

/-- The index of the first byte at or after `index` that is not a blank. -/
def blankEnd (input : ByteArray) (index : Nat) : Nat :=
  if h : index < input.size then
    if isBlank input[index] then blankEnd input (index + 1) else index
  else index
termination_by input.size - index

/-- The index of the first byte at or after `index` that is not a digit. -/
def digitEnd (input : ByteArray) (index : Nat) : Nat :=
  if h : index < input.size then
    if isDigit input[index] then digitEnd input (index + 1) else index
  else index
termination_by input.size - index

/-- Reads the rest of a literal word such as `ull` after `n`: a missing byte ends the value
early, a different byte is not the word. -/
def scanWord (input : ByteArray) (index : Nat) : List UInt8 → Scanned Unit
  | [] => .ok ((), index)
  | expected :: rest =>
      match input[index]? with
      | none => .error (.eofWhileParsingValue, index)
      | some byte =>
          if byte == expected then scanWord input (index + 1) rest
          else .error (.expectedSomeIdent, index + 1)

end Json

end ListingMap
