import ListingMap.DebugTables
import ListingMap.Proofs.SplitRun

/-!
# The end of the file map

`Sections.locate` splits an artifact at 16-aligned blocks of sixteen zero bytes and keeps what
comes before the first such block as the file map and what comes after it as the module-line
section. Through the cut points of the split (`Segment.split_eq_piecesBetween`) the boundary is
the end of the first all-zero block, `firstZeroBlock`.

`Sections.locate?` takes the same steps as the program, where a subtraction below zero or a
slice out of range stops it. It never stops: a piece of the split with another after it holds a
whole block of zeros, so the file map's length, the first piece's length less sixteen, is no
subtraction below zero, and both slices lie within the artifact (`locate?_eq_some_locate`).

The main result, `locate_splits_at_first_zero_block`, gives the outcome for every artifact: too
short, no zero block, nothing after it, or the two sections, which with the zero block between
them make up the artifact. Decoding the debug tables fails with exactly the errors of `locate`,
whatever combinators read the records.
-/

namespace ListingMap

namespace Sections

open Segment

/-- The index `k` of the first block `bytes[16k..16k+16]` whose sixteen bytes are all zero. -/
def firstZeroBlock (bytes : List UInt8) : Option Nat :=
  (List.range (bytes.length / boundaryWidth)).find? fun k =>
    ((bytes.drop (boundaryWidth * k)).take boundaryWidth).all (· == 0)

theorem mem_cutPoints_iff_zero_block {bytes : List UInt8} {k : Nat} :
    boundaryWidth * k + boundaryWidth ∈ cutPoints boundaryWidth 0 bytes ↔
      k < bytes.length / boundaryWidth ∧
        ((bytes.drop (boundaryWidth * k)).take boundaryWidth).all (· == 0) = true := by
  have block : (bytes.take (boundaryWidth * k + boundaryWidth)).drop
      (boundaryWidth * k + boundaryWidth - boundaryWidth) =
        (bytes.drop (boundaryWidth * k)).take boundaryWidth := by
    rw [Nat.add_sub_cancel, List.drop_take, Nat.add_sub_cancel_left]
  rw [mem_cutPoints, block]
  simp only [List.all_eq_true, beq_iff_eq, boundaryWidth]
  constructor
  · rintro ⟨-, within, -, all⟩
    exact ⟨by omega, all⟩
  · rintro ⟨within, all⟩
    exact ⟨by omega, by omega, Nat.dvd_add (Nat.dvd_mul_right 16 k) (Nat.dvd_refl 16), all⟩

theorem exists_eq_of_mem_cutPoints {bytes : List UInt8} {e : Nat}
    (mem : e ∈ cutPoints boundaryWidth 0 bytes) :
    ∃ k, e = boundaryWidth * k + boundaryWidth := by
  obtain ⟨positive, -, ⟨multiple, rfl⟩, -⟩ := mem_cutPoints.mp mem
  exact ⟨multiple - 1, by simp only [boundaryWidth] at positive ⊢; cases multiple <;> omega⟩

theorem head?_cutPoints (bytes : List UInt8) :
    (cutPoints boundaryWidth 0 bytes).head? =
      (firstZeroBlock bytes).map fun k => boundaryWidth * k + boundaryWidth := by
  cases points : cutPoints boundaryWidth 0 bytes with
  | nil =>
      have noBlock : firstZeroBlock bytes = none := by
        rw [firstZeroBlock, List.find?_range_eq_none]
        intro k within
        rw [Bool.not_eq_true', ← Bool.not_eq_true]
        intro zero
        have mem := mem_cutPoints_iff_zero_block.mpr ⟨within, zero⟩
        simp [points] at mem
      simp [noBlock]
  | cons e more =>
      have mem : e ∈ cutPoints boundaryWidth 0 bytes := points ▸ List.mem_cons_self
      obtain ⟨k, rfl⟩ := exists_eq_of_mem_cutPoints mem
      obtain ⟨within, zero⟩ := mem_cutPoints_iff_zero_block.mp mem
      have first : firstZeroBlock bytes = some k := by
        rw [firstZeroBlock, List.find?_range_eq_some]
        refine ⟨zero, List.mem_range.mpr within, fun j earlier => ?_⟩
        rw [Bool.not_eq_true', ← Bool.not_eq_true]
        intro zeroJ
        have memJ := mem_cutPoints_iff_zero_block.mpr ⟨by omega, zeroJ⟩
        have := le_of_cutPoints_eq_cons points _ memJ
        simp only [boundaryWidth] at this
        omega
      simp [first]

theorem firstZeroBlock_eq_some {bytes : List UInt8} {k : Nat}
    (first : firstZeroBlock bytes = some k) :
    16 * k + 16 ≤ bytes.length ∧ (bytes.drop (16 * k)).take 16 = List.replicate 16 0 := by
  rw [firstZeroBlock, List.find?_range_eq_some] at first
  obtain ⟨zero, within, -⟩ := first
  simp only [boundaryWidth, List.mem_range, List.all_eq_true, beq_iff_eq] at zero within
  have fits : 16 * k + 16 ≤ bytes.length := by omega
  refine ⟨fits, List.eq_replicate_iff.mpr ⟨?_, zero⟩⟩
  simp only [List.length_take, List.length_drop]
  omega

theorem split_eq_of_cutPoints_eq_cons {bytes : List UInt8} {e : Nat} {more : List Nat}
    (offset : Nat) (points : cutPoints boundaryWidth 0 bytes = e :: more) :
    ∃ next rest,
      split boundaryWidth 0 ⟨bytes, offset⟩ = ⟨bytes.take e, offset⟩ :: next :: rest := by
  rw [split_eq_piecesBetween, points]
  cases more with
  | nil => exact ⟨⟨bytes.drop e, offset + e⟩, [], by simp [piecesBetween]⟩
  | cons next later =>
      exact ⟨⟨(bytes.take next).drop e, offset + e⟩, piecesBetween bytes offset next later,
        by simp [piecesBetween]⟩

/-- The program's steps never stop it: they find what `locate` finds. -/
theorem locate?_eq_some_locate (artifact : Segment) :
    locate? artifact = some (locate artifact) := by
  unfold locate? locate
  split
  case isTrue => rfl
  case isFalse =>
    split
    case h_1 first second rest pieces =>
      obtain ⟨fits, within⟩ := width_le_length_of_split_eq_cons_cons pieces
      simp only [length] at fits within
      rw [if_neg (by simp only [length]; omega)]
      by_cases nothingAfter : artifact.bytes.length ≤ first.bytes.length
      · simp [slice?, slice, dropFront, length, within, nothingAfter,
          Nat.sub_eq_zero_of_le nothingAfter]
      · simp [slice?, slice, dropFront, takeFront, length, within, nothingAfter,
          show artifact.bytes.length - first.bytes.length ≠ 0 by omega]
    case h_2 => rfl

/-- `locate` by cases: too short, no zero block, nothing after the first one, or the bytes before
and after it. -/
theorem locate_eq (bytes : List UInt8) (offset : Nat) :
    locate ⟨bytes, offset⟩ =
      if bytes.length < 20 then .error (.truncated bytes.length 20)
      else match firstZeroBlock bytes with
        | none => .error (.missingSection "file map")
        | some k =>
            if 16 * k + 16 = bytes.length then .error (.missingSection "module line")
            else .ok ⟨⟨bytes.take (16 * k), offset⟩,
              ⟨bytes.drop (16 * k + 16), offset + 16 * k + 16⟩⟩ := by
  have heads := head?_cutPoints bytes
  simp only [boundaryWidth] at heads
  simp only [locate, Segment.length, minimumLength, boundaryWidth, Nat.reduceAdd]
  by_cases short : bytes.length < 20
  · simp [short]
  · simp only [short, if_false]
    cases first : firstZeroBlock bytes with
    | none =>
        rw [first, Option.map_none, List.head?_eq_none_iff] at heads
        simp [split_eq_piecesBetween, heads, piecesBetween]
    | some k =>
        rw [first, Option.map_some, List.head?_eq_some_iff] at heads
        obtain ⟨more, points⟩ := heads
        obtain ⟨next, rest, splitEq⟩ := split_eq_of_cutPoints_eq_cons offset points
        have fits := (firstZeroBlock_eq_some first).1
        simp only [boundaryWidth] at splitEq
        simp only [splitEq, dropFront, takeFront, List.length_take, List.length_drop,
          Nat.min_eq_left fits, List.take_take]
        by_cases last : 16 * k + 16 = bytes.length
        · simp [last]
        · rw [if_neg (by omega), if_neg last, Nat.min_eq_left (by omega), Nat.add_sub_cancel,
            Nat.add_assoc]

/-- What `locate` returns splits the artifact: the file map, whole records, then the zero block,
then the module-line section. -/
theorem eq_append_of_locate_eq_ok {bytes : List UInt8} {offset : Nat} {sections : Sections}
    (located : locate ⟨bytes, offset⟩ = .ok sections) :
    16 ∣ sections.fileMap.length ∧
      bytes = sections.fileMap.bytes ++ List.replicate 16 0 ++ sections.moduleLines.bytes := by
  rw [locate_eq] at located
  split at located
  case isTrue => cases located
  case isFalse =>
    split at located
    case h_1 => cases located
    case h_2 k first =>
      split at located
      case isTrue => cases located
      case isFalse =>
        cases located
        obtain ⟨fits, zero⟩ := firstZeroBlock_eq_some first
        have aligned : 16 ∣ (bytes.take (16 * k)).length := by
          rw [List.length_take, Nat.min_eq_left (by omega)]
          exact Nat.dvd_mul_right 16 k
        refine ⟨aligned, ?_⟩
        rw [← zero, List.append_assoc, ← List.drop_drop, List.take_append_drop,
          List.take_append_drop]

/-- Decoding the debug tables fails exactly when `locate` fails, and with its error. -/
theorem decodeWith_eq_error_iff (nom : Combinators) (options : DecodeOptions) (stored : List UInt8)
    (error : DecodeError) :
    DebugTables.decodeWith nom options stored = .error error ↔
      locate ⟨stored.reverse, 0⟩ = .error error := by
  cases located : locate ⟨stored.reverse, 0⟩ <;>
    simp [DebugTables.decodeWith, located, bind, Except.bind, pure, Except.pure]

end Sections

/-- The outcome of locating the sections of every artifact, read through the first 16-aligned
block of sixteen zero bytes. The program's steps never stop it and find what `locate` finds:
fewer than twenty bytes are too short; without a zero block there is no file map; with nothing
after it there is no module-line section; otherwise the file map is the whole records before it
and the module-line section everything after it, at its own offset, and the two with the zero
block make up the artifact. Decoding the debug tables fails with exactly these errors, whatever
combinators read the records. -/
theorem Sections.locate_splits_at_first_zero_block (nom : Combinators) (options : DecodeOptions)
    (bytes : List UInt8) (offset : Nat) :
    locate? ⟨bytes, offset⟩ = some (locate ⟨bytes, offset⟩) ∧
      locate ⟨bytes, offset⟩ =
        (if bytes.length < 20 then .error (.truncated bytes.length 20)
        else match firstZeroBlock bytes with
          | none => .error (.missingSection "file map")
          | some k =>
              if 16 * k + 16 = bytes.length then .error (.missingSection "module line")
              else .ok ⟨⟨bytes.take (16 * k), offset⟩,
                ⟨bytes.drop (16 * k + 16), offset + 16 * k + 16⟩⟩) ∧
      (∀ sections, locate ⟨bytes, offset⟩ = .ok sections →
        16 ∣ sections.fileMap.length ∧
          bytes = sections.fileMap.bytes ++ List.replicate 16 0 ++ sections.moduleLines.bytes) ∧
      ∀ error, DebugTables.decodeWith nom options bytes.reverse = .error error ↔
        locate? ⟨bytes, 0⟩ = some (.error error) := by
  refine ⟨locate?_eq_some_locate _, locate_eq bytes offset,
    fun sections => eq_append_of_locate_eq_ok, fun error => ?_⟩
  rw [Sections.decodeWith_eq_error_iff, List.reverse_reverse, locate?_eq_some_locate,
    Option.some_inj]

end ListingMap
