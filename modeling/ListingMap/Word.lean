/-!
# Big-endian words

The tables of an artifact store their numbers as 32-bit words, most significant byte first.
`Word.read bytes position` reads the word whose first byte is at `position`, and `Word.bytes`
writes a word as its four bytes; reading what was written gives the word back (`read_bytes`).
-/

namespace ListingMap

namespace Word

/-- The value of a byte string read most significant byte first. -/
def value (bytes : List UInt8) : Nat :=
  bytes.foldl (fun acc byte => acc * 256 + byte.toNat) 0

/-- The word whose four bytes start at `position`. Callers read only words that lie wholly
inside the bytes. -/
def read (bytes : List UInt8) (position : Nat) : UInt32 :=
  (value ((bytes.drop position).take 4)).toUInt32

/-- The four bytes of a word, most significant first. -/
def bytes (word : UInt32) : List UInt8 :=
  [(word >>> 24).toUInt8, (word >>> 16).toUInt8, (word >>> 8).toUInt8, word.toUInt8]

@[simp]
theorem length_bytes (word : UInt32) : (bytes word).length = 4 := rfl

/-- A word written as four bytes reads back as itself. -/
theorem read_bytes (word : UInt32) : read (bytes word) 0 = word := by
  have bound := word.toNat_lt
  apply UInt32.toNat.inj
  simp [read, bytes, value, UInt32.toNat_shiftRight, UInt32.toNat_toUInt8]
  omega

@[simp]
theorem value_bytes (word : UInt32) : (value (bytes word)).toUInt32 = word := by
  have readBack := read_bytes word
  rwa [read, List.drop_zero, List.take_of_length_le (by simp)] at readBack

@[simp]
theorem drop_bytes (word : UInt32) {count : Nat} (past : 4 ≤ count) :
    (bytes word).drop count = [] :=
  List.drop_eq_nil_of_le (by simpa using past)

@[simp]
theorem take_bytes (word : UInt32) {count : Nat} (past : 4 ≤ count) :
    (bytes word).take count = bytes word :=
  List.take_of_length_le (by simpa using past)

end Word

end ListingMap
