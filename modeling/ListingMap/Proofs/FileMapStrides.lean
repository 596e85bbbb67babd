import ListingMap.FileMap

/-!
# Reading the file-map table stride by stride

With lawful combinators a record is read from the first 16 bytes when there are 16, and the
parse fails with a recoverable error when there are fewer (`FileMapRecord.parse_of_le`,
`FileMapRecord.parse_of_lt`). So the repetition reads one record from every complete 16-byte
stride and stops at the incomplete tail, which it leaves over; it never fails, and the decoder's
error branch is never taken (`FileMap.many0_parse`). The records are then those read at fixed
positions, stride by stride (`FileMap.readStrides`).

A table of `n` bytes gives `n / 16` records, the `i`-th read from bytes `16 i` to `16 i + 16`.
Within a stride the source number, the last line and the first line are the big-endian words at
bytes 0, 4 and 8, and the debug number is the low byte of the last word, which is byte 15
(`FileMapRecord.ofStride_eq`): the high bytes of that word are never read. So records written
one stride each, with any high bytes in each last word, followed by fewer than 16 bytes, read
back as themselves. `FileMap.decode_reads_every_stride` gathers these facts.
-/

namespace ListingMap

namespace Word

theorem toUInt8_read {bytes : List UInt8} {position : Nat} (inside : position + 4 ≤ bytes.length) :
    (read bytes position).toUInt8 = bytes.getD (position + 3) 0 := by
  have long : 4 ≤ (bytes.drop position).length := by
    rw [List.length_drop]
    omega
  have last : bytes.getD (position + 3) 0 = (bytes.drop position).getD 3 0 := by
    simp [List.getD_eq_getElem?_getD, List.getElem?_drop]
  rw [last, read]
  rcases split : bytes.drop position with
    _ | ⟨first, _ | ⟨second, _ | ⟨third, _ | ⟨fourth, rest⟩⟩⟩⟩
  all_goals simp only [split, List.length_cons, List.length_nil] at long
  · omega
  · omega
  · omega
  · omega
  · apply UInt8.toNat.inj
    simp [value]

end Word

namespace FileMapRecord

/-- The size of a record in the table. -/
def size : Nat := 16

/-- The record stored in a 16-byte stride, read at the positions of its words. -/
def ofStride (stride : List UInt8) : FileMapRecord where
  sourceNum := Word.read stride 0
  lineEnd := Word.read stride 4
  lineBegin := Word.read stride 8
  debugNum := (Word.read stride 12).toUInt8

/-- A stride at `position` of a table reads as the words at `position`, `position + 4` and
`position + 8` of the table and its byte `position + 15`. -/
theorem ofStride_eq {table : List UInt8} {position : Nat}
    (inside : position + size ≤ table.length) :
    ofStride ((table.drop position).take size) =
      { sourceNum := Word.read table position
        lineEnd := Word.read table (position + 4)
        lineBegin := Word.read table (position + 8)
        debugNum := table.getD (position + 15) 0 } := by
  have reads : ∀ offset, offset + 4 ≤ size →
      Word.read ((table.drop position).take size) offset = Word.read table (position + offset) := by
    intro offset fits
    have window : min 4 (size - offset) = 4 := by
      simp only [size] at fits ⊢
      omega
    simp only [Word.read, List.drop_take, List.take_take, List.drop_drop, window]
  have lowByte : (Word.read table (position + 12)).toUInt8 = table.getD (position + 15) 0 :=
    Word.toUInt8_read (by simp only [size] at inside; omega)
  simp only [ofStride, reads 0 (by decide), reads 4 (by decide), reads 8 (by decide),
    reads 12 (by decide), Nat.add_zero, lowByte]

theorem toUInt8_and_lowByte (word : UInt32) : (word &&& 0xff).toUInt8 = word.toUInt8 := by
  apply UInt8.toNat_inj.mp
  simp only [UInt32.toNat_toUInt8, UInt32.toNat_and]
  rw [show (0xff : UInt32).toNat = 2 ^ 8 - 1 from rfl, Nat.and_two_pow_sub_one_eq_mod]
  omega

section Parse

variable {nom : Combinators} (lawful : nom.Lawful)
include lawful

theorem parse_of_le {input : List UInt8} (long : size ≤ input.length) :
    parse nom input = .ok (input.drop size, ofStride (input.take size)) := by
  simp only [size] at long
  have stride := ofStride_eq (show 0 + size ≤ input.length by simp only [size]; omega)
  simp only [List.drop_zero, Nat.zero_add] at stride
  simp only [parse, lawful.u32_read (show 4 ≤ input.length by omega), Parser.ok_bind,
    lawful.u32_drop (show 4 + 4 ≤ input.length by omega),
    lawful.u32_drop (show 8 + 4 ≤ input.length by omega),
    lawful.u32_drop (show 12 + 4 ≤ input.length by omega), stride, toUInt8_and_lowByte,
    Word.toUInt8_read (show 12 + 4 ≤ input.length by omega)]
  rfl

theorem parse_of_lt {input : List UInt8} (short : input.length < size) :
    parse nom input = .error .error := by
  simp only [size] at short
  by_cases inFirst : input.length < 4
  · simp only [parse, lawful.u32_of_lt input inFirst, Parser.error_bind]
  obtain ⟨holds, runsShort⟩ | ⟨holds, runsShort⟩ | ⟨holds, runsShort⟩ :
      (4 ≤ input.length ∧ input.length < 8) ∨ (8 ≤ input.length ∧ input.length < 12) ∨
        (12 ≤ input.length ∧ input.length < 16) := by
    omega
  all_goals
    simp (disch := omega) only [parse, lawful.u32_read (show 4 ≤ input.length by omega),
      lawful.u32_drop, lawful.u32_drop_of_lt, Parser.ok_bind, Parser.error_bind]

end Parse

/-- A record written with any last word whose low byte is its debug number reads back as
itself. -/
theorem ofStride_bytes_of_toUInt8 {record : FileMapRecord} {last : UInt32}
    (lowByte : last.toUInt8 = record.debugNum) :
    ofStride (Word.bytes record.sourceNum ++ Word.bytes record.lineEnd ++
      Word.bytes record.lineBegin ++ Word.bytes last) = record := by
  simp [ofStride, Word.read, List.drop_append, List.take_append, lowByte]

end FileMapRecord

namespace FileMap

open FileMapRecord

/-- Reads a record from every complete stride of the table, in order. -/
def readStrides (table : List UInt8) : List FileMapRecord :=
  if size ≤ table.length then
    ofStride (table.take size) :: readStrides (table.drop size)
  else
    []
termination_by table.length
decreasing_by simp only [List.length_drop, size] at *; omega

section Parse

variable {nom : Combinators} (lawful : nom.Lawful)
include lawful

/-- The repetition reads every complete stride and stops with the incomplete tail left over. -/
theorem many0_parse (table : List UInt8) :
    nom.many0 (parse nom) table =
      .ok (table.drop (size * (table.length / size)), readStrides table) := by
  fun_induction readStrides table with
  | case1 table long inductionHypothesis =>
      rw [lawful.many0_of_ok _ _ _ _ (parse_of_le lawful long) (by simp [size] at long ⊢; omega),
        inductionHypothesis, List.drop_drop]
      simp only [Except.map, List.length_drop]
      congr 3
      simp only [size] at long ⊢
      omega
  | case2 table short =>
      rw [lawful.many0_of_error _ _ (parse_of_lt lawful (by omega))]
      have none : table.length / size = 0 := by
        simp only [size] at short ⊢
        omega
      simp [none]

/-- The decoder reads the records of the complete strides. -/
theorem decodeWith_eq_readStrides (table : List UInt8) :
    decodeWith nom table = readStrides table := by
  rw [decodeWith, many0_parse lawful]

end Parse

theorem length_readStrides (table : List UInt8) :
    (readStrides table).length = table.length / size := by
  fun_induction readStrides table with
  | case1 table long inductionHypothesis =>
      rw [List.length_cons, inductionHypothesis, List.length_drop]
      simp only [size] at long ⊢
      omega
  | case2 table short =>
      simp only [size] at short ⊢
      simp only [List.length_nil]
      omega

theorem getElem?_readStrides (table : List UInt8) {index : Nat}
    (inside : index < table.length / size) :
    (readStrides table)[index]? = some (ofStride ((table.drop (size * index)).take size)) := by
  fun_induction readStrides table generalizing index with
  | case1 table long inductionHypothesis =>
      cases index with
      | zero => simp
      | succ index =>
          have later : index < (table.drop size).length / size := by
            simp only [List.length_drop, size] at inside ⊢
            omega
          rw [List.getElem?_cons_succ, inductionHypothesis later, List.drop_drop, Nat.mul_succ,
            Nat.add_comm]
  | case2 table short =>
      simp only [size] at short inside
      omega

/-- Records written one stride each, with any high bytes in the last word of each, and followed
by fewer than 16 bytes, read back as themselves. -/
theorem readStrides_strides_append (stored : List (FileMapRecord × UInt32))
    (lowBytes : ∀ entry ∈ stored, entry.2.toUInt8 = entry.1.debugNum) {tail : List UInt8}
    (short : tail.length < size) :
    readStrides (stored.flatMap (fun entry => Word.bytes entry.1.sourceNum ++
        Word.bytes entry.1.lineEnd ++ Word.bytes entry.1.lineBegin ++ Word.bytes entry.2) ++ tail) =
      stored.map (·.1) := by
  induction stored with
  | nil =>
      rw [readStrides, if_neg (by simpa using short)]
      rfl
  | cons entry rest inductionHypothesis =>
      have stride : (Word.bytes entry.1.sourceNum ++ Word.bytes entry.1.lineEnd ++
          Word.bytes entry.1.lineBegin ++ Word.bytes entry.2).length = size := rfl
      rw [List.flatMap_cons, List.append_assoc, readStrides,
        if_pos (by rw [List.length_append, stride]; omega),
        List.take_left' stride, List.drop_left' stride,
        ofStride_bytes_of_toUInt8 (lowBytes entry List.mem_cons_self),
        inductionHypothesis fun other mem => lowBytes other (.tail _ mem), List.map_cons]

/-- The file-map table is read stride by stride. With lawful combinators the repetition reads a
record from every complete stride and leaves the incomplete tail over, so the decoder never
takes its error branch. A table of `n` bytes gives `n / 16` records; the `i`-th holds the
big-endian words at bytes `16 i`, `16 i + 4` and `16 i + 8` as its source number, last line and
first line, and byte `16 i + 15`, the low byte of the last word, as its debug number. So records
written one stride each, with any high bytes in each last word and fewer than 16 bytes after
them, read back as themselves. -/
theorem decode_reads_every_stride (nom : Combinators) (lawful : nom.Lawful) (table : List UInt8) :
    nom.many0 (parse nom) table =
        .ok (table.drop (16 * (table.length / 16)), decodeWith nom table) ∧
      (decodeWith nom table).length = table.length / 16 ∧
      (∀ index < table.length / 16, (decodeWith nom table)[index]? = some
        { sourceNum := Word.read table (16 * index)
          lineEnd := Word.read table (16 * index + 4)
          lineBegin := Word.read table (16 * index + 8)
          debugNum := table.getD (16 * index + 15) 0 }) ∧
      ∀ stored : List (FileMapRecord × UInt32),
        (∀ entry ∈ stored, entry.2.toUInt8 = entry.1.debugNum) →
        ∀ tail : List UInt8, tail.length < 16 →
          decodeWith nom (stored.flatMap (fun entry => Word.bytes entry.1.sourceNum ++
              Word.bytes entry.1.lineEnd ++ Word.bytes entry.1.lineBegin ++ Word.bytes entry.2) ++
            tail) = stored.map (·.1) := by
  simp only [decodeWith_eq_readStrides lawful]
  refine ⟨many0_parse lawful table, length_readStrides table, fun index inside => ?_,
    fun stored lowBytes tail short => readStrides_strides_append stored lowBytes short⟩
  have inStride : size * index + size ≤ table.length := by
    simp only [size]
    omega
  rw [getElem?_readStrides table inside, ofStride_eq inStride]
  rfl

/-- Two records and a tail of three bytes, read with the standard combinators. -/
theorem decode_reads_two_strides :
    Combinators.standard.Lawful ∧
      let table : List UInt8 := [0, 0, 0, 9, 0, 0, 0, 4, 0, 0, 0, 1, 7, 7, 7, 2,
        0, 0, 0, 20, 0, 0, 1, 0, 0, 0, 0, 5, 0, 0, 0, 3, 1, 2, 3]
      Combinators.standard.many0 (parse Combinators.standard) table =
          .ok (table.drop (16 * (table.length / 16)), decodeWith Combinators.standard table) ∧
        (decodeWith Combinators.standard table).length = table.length / 16 ∧
        (∀ index < table.length / 16, (decodeWith Combinators.standard table)[index]? = some
          { sourceNum := Word.read table (16 * index)
            lineEnd := Word.read table (16 * index + 4)
            lineBegin := Word.read table (16 * index + 8)
            debugNum := table.getD (16 * index + 15) 0 }) ∧
        ∀ stored : List (FileMapRecord × UInt32),
          (∀ entry ∈ stored, entry.2.toUInt8 = entry.1.debugNum) →
          ∀ tail : List UInt8, tail.length < 16 →
            decodeWith Combinators.standard (stored.flatMap (fun entry =>
                Word.bytes entry.1.sourceNum ++ Word.bytes entry.1.lineEnd ++
                  Word.bytes entry.1.lineBegin ++ Word.bytes entry.2) ++ tail) =
              stored.map (·.1) :=
  ⟨Combinators.lawful_standard,
    decode_reads_every_stride Combinators.standard Combinators.lawful_standard _⟩

end FileMap

end ListingMap
