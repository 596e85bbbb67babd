import Mathlib
import ListingMap.Filename

/-!
# Reading a filename

`Filename.read` reads, from where it starts, the longest run of bytes that a filename admits:
printable ASCII always, and the high half when filenames are extended. It shows each byte by its
glyph in the symbol table, and names exactly one reason for stopping, by what stands where the
run ends (`Filename.readFrom_eq`):

* the end of the buffer, reported as an unterminated string at the start;
* a NUL, reported as nothing;
* any other byte, reported as invalid at its position with its symbol's name.

`Filename.read_longest_admitted_prefix` states this in terms of the buffer and the position
where reading stops. A strict reader keeps the bytes themselves: each printable byte is one
character wide in UTF-8 and encodes as itself (`Filename.utf8EncodeChar_glyph`).
-/

namespace ListingMap

theorem ByteArray.toList_eq_data_toList (bytes : ByteArray) :
    bytes.toList = bytes.data.toList := by
  have loop : ∀ (index : Nat) (read : List UInt8), index ≤ bytes.size →
      ByteArray.toList.loop bytes index read = read.reverse ++ bytes.data.toList.drop index := by
    intro index read
    fun_induction ByteArray.toList.loop bytes index read with
    | case1 index read inside inductionHypothesis =>
        intro _
        have next : bytes.data.toList.drop index =
            bytes.get! index :: bytes.data.toList.drop (index + 1) := by
          rw [List.drop_eq_getElem_cons (by simpa using inside)]
          simp [ByteArray.get!, inside]
        rw [inductionHypothesis inside, next]
        simp
    | case2 index read outside =>
        intro within
        have atEnd : index = bytes.size := by omega
        subst atEnd
        simp
  exact loop 0 [] (Nat.zero_le _)

namespace Filename

/-! ## Admitted bytes and their glyphs -/

theorem admits_iff {extended : Bool} {byte : UInt8} :
    admits extended byte = true ↔ 32 ≤ byte ∧ byte ≤ 126 ∨ extended = true ∧ 128 ≤ byte := by
  simp [admits, Symbol.isPrintable, Symbol.isExtended]

@[simp]
theorem admits_zero (extended : Bool) : admits extended 0 = false := by
  cases extended <;> decide

theorem glyph_ofByte_of_admits {extended : Bool} {byte : UInt8}
    (admitted : admits extended byte = true) :
    (Symbol.ofByte byte).glyph = some (glyph byte) := by
  have range := admits_iff.mp admitted
  have notControl : ¬byte < 32 := by
    simp only [UInt8.le_iff_toNat_le, UInt8.lt_iff_toNat_lt] at range ⊢
    simp at range ⊢
    omega
  have notDelete : byte ≠ 127 := by
    rintro rfl
    simp at range
  have shown : ((Symbol.ofByte byte).glyph).isSome := by
    unfold Symbol.ofByte
    simp only [notControl, notDelete, if_false]
    split_ifs <;> rfl
  obtain ⟨shownGlyph, shownEq⟩ := Option.isSome_iff_exists.mp shown
  simp [glyph, shownEq]

theorem utf8EncodeChar_glyph {byte : UInt8} (admitted : admits false byte = true) :
    String.utf8EncodeChar (glyph byte) = [byte] := by
  have printable : 32 ≤ byte.toNat ∧ byte.toNat ≤ 126 := by
    have range := admits_iff.mp admitted
    simp only [UInt8.le_iff_toNat_le] at range
    simpa using range
  have valid : byte.toNat.isValidChar := Or.inl (by omega)
  have code : (Char.ofNat byte.toNat).val.toUInt8 = byte := by
    simp [Char.ofNat, Char.ofNatAux, valid]
  have narrow : (Char.ofNat byte.toNat).utf8Size = 1 := by
    rw [Char.utf8Size_eq_one_iff, UInt32.le_iff_toNat_le]
    simp [Char.ofNat, Char.ofNatAux, valid]
    omega
  have shown : glyph byte = Char.ofNat byte.toNat := by
    by_cases space : byte = 32
    · subst space
      rfl
    · have notControl : ¬byte < 32 := by
        rw [UInt8.lt_iff_toNat_lt]
        simp
        omega
      have visible : byte < 127 := by
        rw [UInt8.lt_iff_toNat_lt]
        simp
        omega
      simp [glyph, Symbol.ofByte, notControl, space, visible]
  rw [shown, String.utf8EncodeChar_eq_singleton narrow, code]

theorem toUTF8_glyphs {bytes : List UInt8} (printable : ∀ byte ∈ bytes, admits false byte = true) :
    (String.ofList (bytes.map glyph)).toUTF8.toList = bytes := by
  rw [String.toUTF8, ← String.utf8Encode_toList, ByteArray.toList_eq_data_toList,
    String.toList_ofList, List.utf8Encode, List.toList_data_toByteArray, List.flatMap_map]
  calc bytes.flatMap (fun byte => String.utf8EncodeChar (glyph byte))
      _ = bytes.flatMap (fun byte => [byte]) := by
        rw [List.flatMap_def, List.flatMap_def,
          List.map_congr_left fun byte mem => utf8EncodeChar_glyph (printable byte mem)]
      _ = bytes := List.flatMap_singleton' bytes

/-! ## The longest run that passes a test -/

section Run

variable {α : Type} (test : α → Bool) (items : List α)

theorem exists_getElem?_of_lt_length_takeWhile {offset : Nat}
    (within : offset < (items.takeWhile test).length) :
    ∃ element, items[offset]? = some element ∧ test element = true := by
  have split := congrArg (·[offset]?) (List.takeWhile_append_dropWhile (p := test) (l := items))
  simp only [List.getElem?_append_left within, List.getElem?_eq_getElem within] at split
  exact ⟨_, split.symm, List.mem_takeWhile_imp (List.getElem_mem within)⟩

theorem getElem?_length_takeWhile :
    items[(items.takeWhile test).length]? = (items.dropWhile test).head? := by
  have split := congrArg (·[(items.takeWhile test).length]?)
    (List.takeWhile_append_dropWhile (p := test) (l := items))
  simp only [List.getElem?_append_right (Nat.le_refl _), Nat.sub_self] at split
  rw [← split, List.head?_eq_getElem?]

theorem take_length_takeWhile : items.take (items.takeWhile test).length = items.takeWhile test := by
  have split := congrArg (List.take (items.takeWhile test).length)
    (List.takeWhile_append_dropWhile (p := test) (l := items))
  rw [List.take_left' rfl] at split
  exact split.symm

theorem test_eq_false_of_head?_dropWhile {first : α}
    (stops : (items.dropWhile test).head? = some first) : test first = false := by
  have nonempty : items.dropWhile test ≠ [] := by
    intro empty
    rw [empty] at stops
    cases stops
  rw [List.head?_eq_some_head nonempty, Option.some.injEq] at stops
  rw [← stops]
  exact List.head_dropWhile_not test nonempty

end Run

/-! ## Where reading stops -/

/-- Reading from `position` shows the glyphs of the longest admitted run, and names what ends
it: the end of the buffer, a NUL, or a byte it may not hold. -/
theorem readFrom_eq (extended : Bool) (start : Nat) (bytes : List UInt8) (position : Nat) :
    readFrom extended start position bytes =
      ⟨(bytes.takeWhile (admits extended)).map glyph,
        match (bytes.dropWhile (admits extended)).head? with
        | none => [.unterminatedString start]
        | some byte => if byte = 0 then [] else
            [.invalidByte (position + (bytes.takeWhile (admits extended)).length) byte
              (Symbol.ofByte byte).name]⟩ := by
  induction bytes generalizing position with
  | nil => rfl
  | cons byte rest inductionHypothesis =>
      by_cases nul : byte = 0
      · subst nul
        simp [readFrom]
      · by_cases admitted : admits extended byte = true
        · rw [readFrom, if_neg nul, if_pos admitted, inductionHypothesis,
            List.takeWhile_cons_of_pos admitted, List.dropWhile_cons_of_pos admitted]
          simp [Nat.add_assoc, Nat.add_comm 1]
        · rw [readFrom, if_neg nul, if_neg admitted, List.takeWhile_cons_of_neg admitted,
            List.dropWhile_cons_of_neg admitted]
          simp [nul]

/-- Reading a filename from `start` reads the longest run of admitted bytes, up to the least
position `stop` at or after `start` that is past the buffer, a NUL or a byte the filename may not
hold. The filename is the symbol-table glyphs of the bytes from `start` to `stop`, and a strict
filename is those very bytes in UTF-8. One diagnostic at most says why reading stopped: none for
a NUL, an invalid byte at `stop` for a refused byte, and an unterminated string at `start` past
the end. -/
theorem read_longest_admitted_prefix (extended : Bool) (buffer : List UInt8) (start : Nat) :
    ∃ stop, start ≤ stop ∧
      (∀ position, start ≤ position → position < stop → ∃ byte, buffer[position]? = some byte ∧
        byte ≠ 0 ∧ (32 ≤ byte ∧ byte ≤ 126 ∨ extended = true ∧ 128 ≤ byte)) ∧
      (∀ byte, buffer[stop]? = some byte →
        byte = 0 ∨ ¬(32 ≤ byte ∧ byte ≤ 126 ∨ extended = true ∧ 128 ≤ byte)) ∧
      (read extended buffer start).value.toList.map some =
        ((buffer.drop start).take (stop - start)).map (fun byte => (Symbol.ofByte byte).glyph) ∧
      (extended = false →
        (read extended buffer start).value.toUTF8.toList = (buffer.drop start).take (stop - start)) ∧
      (read extended buffer start).diagnostics = match buffer[stop]? with
        | none => [.unterminatedString start]
        | some byte => if byte = 0 then [] else [.invalidByte stop byte (Symbol.ofByte byte).name] := by
  have reading := readFrom_eq extended start (buffer.drop start) start
  refine ⟨start + ((buffer.drop start).takeWhile (admits extended)).length, by omega,
    fun position low high => ?_, fun byte stopped => ?_, ?_, fun strict => ?_, ?_⟩
  · obtain ⟨offset, rfl⟩ := Nat.exists_eq_add_of_le low
    obtain ⟨byte, found, admitted⟩ :=
      exists_getElem?_of_lt_length_takeWhile (admits extended) (buffer.drop start)
        (by omega : offset < ((buffer.drop start).takeWhile (admits extended)).length)
    rw [List.getElem?_drop] at found
    refine ⟨byte, found, fun nul => ?_, admits_iff.mp admitted⟩
    rw [nul, admits_zero] at admitted
    exact Bool.false_ne_true admitted
  · rw [← List.getElem?_drop, getElem?_length_takeWhile] at stopped
    have refused := test_eq_false_of_head?_dropWhile _ _ stopped
    exact .inr fun range => by simp [admits_iff.mpr range] at refused
  · rw [Nat.add_sub_cancel_left, take_length_takeWhile, read, reading, String.toList_ofList,
      List.map_map]
    exact List.map_congr_left fun byte mem =>
      (glyph_ofByte_of_admits (List.mem_takeWhile_imp mem)).symm
  · subst strict
    rw [Nat.add_sub_cancel_left, take_length_takeWhile, read, reading]
    exact toUTF8_glyphs fun byte mem => List.mem_takeWhile_imp mem
  · rw [← List.getElem?_drop, getElem?_length_takeWhile, read, reading]

end Filename

end ListingMap
