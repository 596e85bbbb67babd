/-!
# Diagnostics

Decoding never stops at a damaged record: it notes what it found and goes on with the rest.
A `Diagnostic` names the kind of damage and where it lies, and `Diagnostic.message` renders it
as one line of text. `Reported α` pairs a result with the diagnostics raised, in order, while
it was produced; sequencing two reported computations concatenates their diagnostics.
-/

namespace ListingMap

/-- A recoverable anomaly met while decoding or assembling. -/
inductive Diagnostic where
  /-- A string stopped at a byte it may not hold; `offset` is relative to the buffer read. -/
  | invalidByte (offset : Nat) (byte : UInt8) (symbol : String)
  /-- A string ran off its buffer without a NUL; `offset` is where the string started. -/
  | unterminatedString (offset : Nat)
  /-- A module-line sub-record too short to be a root record. -/
  | truncatedRecord (offset : Nat) (length : Nat)
  /-- A module-line sub-record that matches neither child layout. -/
  | unclassifiedRecord (offset : Nat) (length : Nat)
  /-- A file-map record whose debug number names no include record. -/
  | unresolvedRecord (debugNum : UInt8) (sourceNum : UInt32)
  /-- A file-map record whose last line comes before its first. -/
  | invertedRange (debugNum : UInt8) (lineBegin lineEnd : UInt32)
  /-- A file-map record spanning more lines than the listing may still receive. -/
  | implausibleRange (debugNum : UInt8) (lineBegin lineEnd : UInt32)
  /-- A file-map record whose debug lines run past the largest word; later lines are dropped. -/
  | debugLineOverflow (debugNum : UInt8) (sourceNum sourceLine : UInt32)
  /-- Two items claimed one debug line; the item sorted first keeps it. -/
  | duplicateDebugLine (debugLine kept dropped : UInt32)
deriving Repr, DecidableEq, Inhabited

/-- `0x` followed by the lowercase hexadecimal digits of `n`, so `0x0` for zero. -/
def hexLiteral (n : Nat) : String := "0x" ++ String.ofList (Nat.toDigits 16 n)

namespace Diagnostic

/-- The one-line text of a diagnostic. -/
def message : Diagnostic → String
  | invalidByte offset byte symbol =>
      s!"string truncated at +{hexLiteral offset}: byte {byte} ({symbol}) is not printable"
  | unterminatedString offset =>
      s!"string starting at +{hexLiteral offset} has no NUL terminator"
  | truncatedRecord offset length =>
      s!"module line record at {hexLiteral offset} truncated ({length} bytes)"
  | unclassifiedRecord offset length =>
      s!"unclassified module line record at {hexLiteral offset} ({length} bytes)"
  | unresolvedRecord debugNum sourceNum =>
      s!"file map record {sourceNum} references unknown debug number {debugNum}"
  | invertedRange debugNum lineBegin lineEnd =>
      s!"file map record for debug number {debugNum} has inverted range {lineBegin}..{lineEnd}"
  | implausibleRange debugNum lineBegin lineEnd =>
      s!"file map record for debug number {debugNum} spans too many lines: {lineBegin}..{lineEnd}"
  | debugLineOverflow debugNum sourceNum sourceLine =>
      s!"file map record {sourceNum} for debug number {debugNum} overflows the debug listing at source line {sourceLine}"
  | duplicateDebugLine debugLine kept dropped =>
      s!"debug line {debugLine} claimed twice, keeping source line {kept} over {dropped}"

end Diagnostic

/-- A result together with the diagnostics raised, in order, while producing it. -/
structure Reported (α : Type) where
  /-- The result, complete as far as the input allowed. -/
  value : α
  /-- What was found wrong on the way, in the order it was found. -/
  diagnostics : List Diagnostic := []
deriving Repr, Inhabited

namespace Reported

/-- Runs `next` on the value and keeps the diagnostics of both steps, first step first. -/
def bind {α β : Type} (first : Reported α) (next : α → Reported β) : Reported β :=
  let second := next first.value
  ⟨second.value, first.diagnostics ++ second.diagnostics⟩

instance : Monad Reported where
  pure value := ⟨value, []⟩
  bind := bind

/-- Diagnostics form a free monoid, so `Reported` obeys the monad laws. -/
instance : LawfulMonad Reported := LawfulMonad.mk' Reported
  (by intro α x; cases x; simp [Functor.map, bind])
  (by intro α β x f; simp [Bind.bind, Pure.pure, bind])
  (by intro α β γ x f g; simp [Bind.bind, bind, List.append_assoc])

/-- Raises one diagnostic. -/
def report (diagnostic : Diagnostic) : Reported Unit := ⟨(), [diagnostic]⟩

@[simp]
theorem diagnostics_bind {α β : Type} (first : Reported α) (next : α → Reported β) :
    (first >>= next).diagnostics = first.diagnostics ++ (next first.value).diagnostics := rfl

@[simp]
theorem value_bind {α β : Type} (first : Reported α) (next : α → Reported β) :
    (first >>= next).value = (next first.value).value := rfl

@[simp]
theorem value_pure {α : Type} (value : α) : (pure value : Reported α).value = value := rfl

@[simp]
theorem diagnostics_pure {α : Type} (value : α) :
    (pure value : Reported α).diagnostics = [] := rfl

end Reported

end ListingMap
