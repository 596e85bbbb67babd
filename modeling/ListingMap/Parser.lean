import ListingMap.Word

/-!
# Byte parsers

The decoders read their records with parser combinators. A parser takes the input bytes and
gives back the bytes left over with what it read, or fails. A failure is a recoverable error,
at which a repetition stops and keeps what it has, or one that is passed on: a failure no
combinator recovers from, or a want of more input.

`Combinators` gathers the combinators the decoders are built from: one byte, one big-endian
32-bit word, a count of bytes, and repetition. The decoders take them as a parameter.
`Combinators.Lawful` names the laws the decoders rely on, those of complete (not streaming)
input: a combinator reads what is there when there is enough and gives a recoverable error when
there is too little, and repetition stops at the first recoverable error and otherwise goes on
after what its parser consumed. `Combinators.standard` is an implementation, and it is lawful
(`Combinators.lawful_standard`).
-/

namespace ListingMap

/-- How a parser fails. -/
inductive ParseError where
  /-- A recoverable error: a repetition stops here and keeps what it has. -/
  | error
  /-- An error no combinator recovers from. -/
  | failure
  /-- More input is needed. -/
  | incomplete
deriving Repr, DecidableEq

/-- A parser of bytes: the bytes left over and what was read, or how it failed. -/
abbrev Parser (α : Type) := List UInt8 → Except ParseError (List UInt8 × α)

/-- The combinators the decoders are built from. -/
structure Combinators where
  /-- One byte. -/
  u8 : Parser UInt8
  /-- A 32-bit word, most significant byte first. -/
  u32 : Parser UInt32
  /-- The given number of bytes. -/
  take : Nat → Parser (List UInt8)
  /-- The parser, applied as often as it succeeds. -/
  many0 : {α : Type} → Parser α → Parser (List α)

namespace Parser

@[simp]
theorem ok_bind {ε α β : Type} (value : α) (next : α → Except ε β) :
    (Except.ok value >>= next) = next value := rfl

@[simp]
theorem error_bind {ε α β : Type} (failed : ε) (next : α → Except ε β) :
    (Except.error failed >>= next) = Except.error failed := rfl

/-- One byte; no byte is a recoverable error. -/
def u8 : Parser UInt8
  | [] => .error .error
  | byte :: rest => .ok (rest, byte)

/-- The first `count` bytes; fewer is a recoverable error. -/
def take (count : Nat) : Parser (List UInt8) := fun input =>
  if count ≤ input.length then .ok (input.drop count, input.take count) else .error .error

/-- A 32-bit word, most significant byte first; fewer than four bytes is a recoverable error. -/
def u32 : Parser UInt32 := fun input =>
  (take 4 input).map fun (rest, bytes) => (rest, (Word.value bytes).toUInt32)

/-- The parser, applied until it gives a recoverable error, which ends the list. Any other
failure is passed on. A success that consumed nothing is a recoverable error, as the repetition
would never end. -/
def many0 {α : Type} (parser : Parser α) : Parser (List α) := fun input =>
  match parser input with
  | .error .error => .ok (input, [])
  | .error failed => .error failed
  | .ok (rest, value) =>
      if rest.length < input.length then
        (many0 parser rest).map fun (left, values) => (left, value :: values)
      else
        .error .error
termination_by input => input.length

end Parser

namespace Combinators

/-- The combinators of `Parser`. -/
def standard : Combinators where
  u8 := Parser.u8
  u32 := Parser.u32
  take := Parser.take
  many0 := Parser.many0

/-- The laws of complete input that the decoders rely on. -/
structure Lawful (nom : Combinators) : Prop where
  /-- A byte is read when there is one. -/
  u8_cons : ∀ byte rest, nom.u8 (byte :: rest) = .ok (rest, byte)
  /-- No byte is a recoverable error. -/
  u8_nil : nom.u8 [] = .error .error
  /-- A word is read from the first four bytes when there are four. -/
  u32_of_le : ∀ input : List UInt8, 4 ≤ input.length →
    nom.u32 input = .ok (input.drop 4, (Word.value (input.take 4)).toUInt32)
  /-- Fewer than four bytes is a recoverable error. -/
  u32_of_lt : ∀ input : List UInt8, input.length < 4 → nom.u32 input = .error .error
  /-- The bytes counted are read when there are enough. -/
  take_of_le : ∀ (count : Nat) (input : List UInt8), count ≤ input.length →
    nom.take count input = .ok (input.drop count, input.take count)
  /-- A recoverable error ends the repetition, with nothing read. -/
  many0_of_error : ∀ {α : Type} (parser : Parser α) (input : List UInt8),
    parser input = .error .error → nom.many0 parser input = .ok (input, [])
  /-- A success that consumed input is kept, and the repetition goes on after it. -/
  many0_of_ok : ∀ {α : Type} (parser : Parser α) (input rest : List UInt8) (value : α),
    parser input = .ok (rest, value) → rest.length < input.length →
      nom.many0 parser input =
        (nom.many0 parser rest).map fun (left, values) => (left, value :: values)

theorem lawful_standard : standard.Lawful where
  u8_cons _ _ := rfl
  u8_nil := rfl
  u32_of_le input long := by simp [standard, Parser.u32, Parser.take, long, Except.map]
  u32_of_lt input short := by
    simp [standard, Parser.u32, Parser.take, Nat.not_le.mpr short, Except.map]
  take_of_le count input long := by simp [standard, Parser.take, long]
  many0_of_error parser input failed := by
    show Parser.many0 parser input = _
    rw [Parser.many0, failed]
  many0_of_ok parser input rest value read shorter := by
    show Parser.many0 parser input = _
    rw [Parser.many0, read]
    simp only [if_pos shorter]
    rfl

namespace Lawful

variable {nom : Combinators} (lawful : nom.Lawful)
include lawful

theorem u8_read {input : List UInt8} (nonempty : 0 < input.length) :
    nom.u8 input = .ok (input.drop 1, input.getD 0 0) := by
  cases input with
  | nil => cases nonempty
  | cons byte rest => simp [lawful.u8_cons]

theorem u32_read {input : List UInt8} (long : 4 ≤ input.length) :
    nom.u32 input = .ok (input.drop 4, Word.read input 0) := by
  rw [lawful.u32_of_le input long, Word.read, List.drop_zero]

/-! Reading at a position of a buffer: the input is what is left of it from there. -/

theorem u8_drop {input : List UInt8} {position : Nat} (inside : position < input.length) :
    nom.u8 (input.drop position) = .ok (input.drop (position + 1), input.getD position 0) := by
  rw [List.drop_eq_getElem_cons inside, lawful.u8_cons]
  simp [List.getD_eq_getElem?_getD, inside]

theorem u8_drop_of_le {input : List UInt8} {position : Nat} (outside : input.length ≤ position) :
    nom.u8 (input.drop position) = .error .error := by
  rw [List.drop_eq_nil_of_le outside, lawful.u8_nil]

theorem u32_drop {input : List UInt8} {position : Nat} (inside : position + 4 ≤ input.length) :
    nom.u32 (input.drop position) = .ok (input.drop (position + 4), Word.read input position) := by
  rw [lawful.u32_of_le _ (by simp; omega), List.drop_drop, Nat.add_comm, Word.read]

theorem u32_drop_of_lt {input : List UInt8} {position : Nat}
    (outside : input.length < position + 4) : nom.u32 (input.drop position) = .error .error :=
  lawful.u32_of_lt _ (by simp; omega)

theorem take_drop (count : Nat) {input : List UInt8} {position : Nat}
    (inside : position + count ≤ input.length) :
    nom.take count (input.drop position) =
      .ok (input.drop (position + count), (input.drop position).take count) := by
  rw [lawful.take_of_le _ _ (by simp; omega), List.drop_drop, Nat.add_comm]

end Lawful

end Combinators

end ListingMap
