import Mathlib.Data.List.DropRight
import ListingMap.Proofs.SplitPoints

/-!
# The splitter's run counter

`Segment.split` walks the bytes once. It counts the sentinels in a row, resets the count on any
other byte, and closes a piece where the count has reached the width at a multiple of the width
from the start; the count then starts again. This file shows that the walk cuts exactly at the
cut points, the ends of the aligned blocks of sentinels (`split_eq_piecesBetween`), and so agrees
with the block reading (`split_eq_splitBlocks`).

The loop keeps one invariant: the open piece starts at a multiple of the width, and the count is
the length of the run of sentinels that ends it (`trailingRun`). Given that invariant, the count
reaches the width at an aligned position exactly when the last `width` bytes are sentinels, that
is at a cut point (`reachesWidth_iff_mem_cutPoints`): a run that began before the piece started
was reset when the piece was cut, and the piece starts aligned, so a block of sentinels that
closes it lies wholly inside it.
-/

namespace ListingMap.Segment

variable {width : Nat} {sentinel : UInt8}

/-- The number of sentinels that end a byte string. -/
def trailingRun (sentinel : UInt8) (bytes : List UInt8) : Nat :=
  (bytes.rtakeWhile (· == sentinel)).length

@[simp]
theorem trailingRun_nil (sentinel : UInt8) : trailingRun sentinel [] = 0 := by
  simp [trailingRun]

theorem trailingRun_append_singleton (bytes : List UInt8) (byte : UInt8) :
    trailingRun sentinel (bytes ++ [byte]) =
      if byte = sentinel then trailingRun sentinel bytes + 1 else 0 := by
  by_cases same : byte = sentinel <;> simp [trailingRun, same]

/-- The run that ends the bytes is at least `count` long exactly when their last `count` bytes
are all the sentinel. -/
theorem le_trailingRun_iff {bytes : List UInt8} {count : Nat} :
    count ≤ trailingRun sentinel bytes ↔
      count ≤ bytes.length ∧ ∀ byte ∈ bytes.drop (bytes.length - count), byte = sentinel := by
  induction bytes using List.reverseRecOn generalizing count with
  | nil => simp
  | append_singleton bytes last inductionHypothesis =>
      rw [trailingRun_append_singleton]
      cases count with
      | zero => simp
      | succ count =>
          have window : (bytes ++ [last]).drop ((bytes ++ [last]).length - (count + 1)) =
              bytes.drop (bytes.length - count) ++ [last] := by
            rw [List.length_append, List.length_singleton, Nat.add_sub_add_right,
              List.drop_append_of_le_length (Nat.sub_le _ _)]
          rw [window, List.length_append, List.length_singleton]
          by_cases same : last = sentinel
          · simp [same, inductionHypothesis, or_imp]
          · simp [same]

/-! ## One turn of the loop -/

theorem add_le_of_dvd {start finish : Nat} (alignedStart : width ∣ start)
    (alignedFinish : width ∣ finish) (before : start < finish) : start + width ≤ finish := by
  have gap : width ∣ finish - start := Nat.dvd_sub alignedFinish alignedStart
  have := Nat.le_of_dvd (by omega) gap
  omega

/-- Within an open piece that starts aligned, the count reaches the width at an aligned position
exactly at a cut point. -/
theorem reachesWidth_iff_mem_cutPoints {bytes : List UInt8} {index start : Nat}
    (aligned : width ∣ start) (started : start ≤ index) (within : index < bytes.length) :
    (width ≤ trailingRun sentinel ((bytes.take (index + 1)).drop start) ∧
        (index + 1) % width = 0) ↔
      index + 1 ∈ cutPoints width sentinel bytes := by
  have pieceLength : ((bytes.take (index + 1)).drop start).length = index + 1 - start := by
    simp only [List.length_drop, List.length_take]
    omega
  have tail : ∀ fits : width ≤ index + 1 - start,
      ((bytes.take (index + 1)).drop start).drop (index + 1 - start - width) =
        (bytes.take (index + 1)).drop (index + 1 - width) := by
    intro fits
    rw [List.drop_drop]
    congr 1
    omega
  rw [le_trailingRun_iff, mem_cutPoints, pieceLength, ← Nat.dvd_iff_mod_eq_zero]
  constructor
  · rintro ⟨⟨fits, all⟩, alignedEnd⟩
    exact ⟨by omega, by omega, alignedEnd, tail fits ▸ all⟩
  · rintro ⟨-, -, alignedEnd, all⟩
    have fits : width ≤ index + 1 - start := by
      have := add_le_of_dvd aligned alignedEnd (by omega)
      omega
    exact ⟨⟨fits, (tail fits).symm ▸ all⟩, alignedEnd⟩

theorem filter_lt_eq_cons_of_mem {points : List Nat} (sorted : points.Pairwise (· < ·))
    {index : Nat} (mem : index + 1 ∈ points) :
    points.filter (index < ·) = (index + 1) :: points.filter (index + 1 < ·) := by
  induction points with
  | nil => simp at mem
  | cons point more inductionHypothesis =>
      rw [List.pairwise_cons] at sorted
      rcases List.mem_cons.mp mem with equal | later
      · have above : ∀ other ∈ more, index + 1 < other := fun other member =>
          equal ▸ sorted.1 other member
        have sameAhead : more.filter (index < ·) = more.filter (index + 1 < ·) :=
          List.filter_congr fun other member => by
            have := above other member
            simp only [decide_eq_decide]
            omega
        rw [← equal, List.filter_cons_of_pos (by simp), List.filter_cons_of_neg (by simp),
          sameAhead]
      · have below : point < index + 1 := sorted.1 _ later
        rw [List.filter_cons_of_neg (by simp; omega), List.filter_cons_of_neg (by simp; omega),
          inductionHypothesis sorted.2 later]

theorem filter_cutPoints_of_not_mem {bytes : List UInt8} {index : Nat}
    (notMem : index + 1 ∉ cutPoints width sentinel bytes) :
    (cutPoints width sentinel bytes).filter (index < ·) =
      (cutPoints width sentinel bytes).filter (index + 1 < ·) := by
  apply List.filter_congr
  intro other member
  have : other ≠ index + 1 := fun equal => notMem (equal ▸ member)
  simp only [decide_eq_decide]
  omega

/-! ## The whole walk -/

/-- The loop from any state that keeps the invariant cuts the rest at the cut points still
ahead. -/
theorem splitRun_eq_piecesBetween (segment : Segment) (rest : List UInt8)
    (index start run : Nat) (remaining : rest = segment.bytes.drop index) (aligned : width ∣ start)
    (started : start ≤ index)
    (counted : run = trailingRun sentinel ((segment.bytes.take index).drop start)) :
    splitRun width sentinel segment rest index start run =
      piecesBetween segment.bytes segment.offset start
        ((cutPoints width sentinel segment.bytes).filter (index < ·)) := by
  induction rest generalizing index start run with
  | nil =>
      have past : segment.bytes.length ≤ index := List.drop_eq_nil_iff.mp remaining.symm
      have noneAhead : (cutPoints width sentinel segment.bytes).filter (index < ·) = [] :=
        List.filter_eq_nil_iff.mpr fun e member => by
          have := (mem_cutPoints.mp member).2.1
          simp only [decide_eq_true_eq]
          omega
      rw [noneAhead]
      simp [splitRun, piecesBetween, slice, length]
  | cons byte rest inductionHypothesis =>
      have within : index < segment.bytes.length := by
        by_contra past
        rw [List.drop_eq_nil_of_le (by omega)] at remaining
        cases remaining
      rw [List.drop_eq_getElem_cons within, List.cons.injEq] at remaining
      obtain ⟨current, next⟩ := remaining
      have counted' : (if byte = sentinel then run + 1 else 0) =
          trailingRun sentinel ((segment.bytes.take (index + 1)).drop start) := by
        rw [List.take_succ_eq_append_getElem within, List.drop_append_of_le_length (by simp; omega),
          trailingRun_append_singleton, ← current, counted]
      simp only [splitRun]
      rw [counted']
      by_cases cutHere : index + 1 ∈ cutPoints width sentinel segment.bytes
      · have alignedNext : width ∣ index + 1 := (mem_cutPoints.mp cutHere).2.2.1
        rw [if_pos ((reachesWidth_iff_mem_cutPoints aligned started within).mpr cutHere),
          filter_lt_eq_cons_of_mem (pairwise_lt_cutPoints _) cutHere,
          inductionHypothesis (index + 1) (index + 1) 0 next alignedNext le_rfl (by simp)]
        rfl
      · rw [if_neg (mt (reachesWidth_iff_mem_cutPoints aligned started within).mp cutHere),
          filter_cutPoints_of_not_mem cutHere,
          inductionHypothesis (index + 1) start _ next aligned (by omega) rfl]

/-- The splitter cuts exactly at the cut points, and every piece keeps the offset where it
starts. -/
theorem split_eq_piecesBetween (width : Nat) (sentinel : UInt8) (bytes : List UInt8)
    (offset : Nat) :
    split width sentinel ⟨bytes, offset⟩ =
      piecesBetween bytes offset 0 (cutPoints width sentinel bytes) := by
  by_cases whole : width = 0 ∨ bytes.length < width
  · have noPoints : cutPoints width sentinel bytes = [] := by
      refine List.eq_nil_iff_forall_not_mem.mpr fun e member => ?_
      have fits := width_pos_of_mem_cutPoints member
      have := (mem_cutPoints.mp member).2.1
      omega
    have whole' : width = 0 ∨ (⟨bytes, offset⟩ : Segment).length < width := whole
    rw [split, if_pos whole', noPoints]
    simp [piecesBetween]
  · have whole' : ¬(width = 0 ∨ (⟨bytes, offset⟩ : Segment).length < width) := whole
    rw [split, if_neg whole',
      splitRun_eq_piecesBetween ⟨bytes, offset⟩ bytes 0 0 0 (by simp) (Nat.dvd_zero _) le_rfl
        (by simp)]
    congr 1
    exact List.filter_eq_self.mpr fun e member => by simpa using (mem_cutPoints.mp member).1

/-- The splitter and the block reading cut the same pieces. -/
theorem split_eq_splitBlocks (width : Nat) (sentinel : UInt8) (segment : Segment) :
    split width sentinel segment = splitBlocks width sentinel segment := by
  rw [split_eq_piecesBetween, splitBlocks_eq_piecesBetween]

/-- A piece with another after it was closed by a block of sentinels: it holds at least one
block, and lies within the segment. -/
theorem width_le_length_of_split_eq_cons_cons {segment first second : Segment}
    {rest : List Segment} (pieces : split width sentinel segment = first :: second :: rest) :
    width ≤ first.length ∧ first.length ≤ segment.length := by
  obtain ⟨bytes, offset⟩ := segment
  rw [split_eq_piecesBetween] at pieces
  cases points : cutPoints width sentinel bytes with
  | nil => simp [points, piecesBetween] at pieces
  | cons e more =>
      rw [points, piecesBetween, List.cons.injEq] at pieces
      obtain ⟨-, within, -, -⟩ := mem_cutPoints.mp (points ▸ List.mem_cons_self)
      have fits := (width_pos_of_mem_cutPoints (points ▸ List.mem_cons_self)).2
      rw [← pieces.1]
      simp only [length, List.drop_zero, List.length_take]
      omega

/-! ## The block reading's facts, for the splitter -/

@[simp]
theorem split_nil (width : Nat) (sentinel : UInt8) (offset : Nat) :
    split width sentinel ⟨[], offset⟩ = [⟨[], offset⟩] := by
  rw [split_eq_splitBlocks, splitBlocks_nil]

theorem bytes_join_split (width : Nat) (sentinel : UInt8) (segment : Segment) :
    ((segment.split width sentinel).map (·.bytes)).flatten = segment.bytes := by
  rw [split_eq_splitBlocks, bytes_join_splitBlocks]

/-- Bytes that end on an aligned sentinel block close every piece of their split: appending
more bytes only continues the split, from the offset where they start. -/
theorem split_append_of_closed {first : List UInt8} (second : List UInt8) (offset : Nat)
    (aligned : width ∣ first.length)
    (closed : first = [] ∨ List.replicate width sentinel <:+ first) :
    split width sentinel ⟨first ++ second, offset⟩ =
      (split width sentinel ⟨first, offset⟩).dropLast ++
        split width sentinel ⟨second, offset + first.length⟩ := by
  simp only [split_eq_splitBlocks]
  exact splitBlocks_append_of_closed second offset aligned closed

theorem split_closedPiece_append (hw : 0 < width) {piece : List UInt8} (rest : List UInt8)
    (offset : Nat) (closed : ClosedPiece width sentinel piece) :
    split width sentinel ⟨piece ++ rest, offset⟩ =
      ⟨piece, offset⟩ :: split width sentinel ⟨rest, offset + piece.length⟩ := by
  simp only [split_eq_splitBlocks]
  exact splitBlocks_closedPiece_append hw rest offset closed

/-- Closed pieces laid one after another split back into themselves; the split then goes on
with whatever follows them. -/
theorem split_flatten_append (hw : 0 < width) (pieces : List (List UInt8)) (rest : List UInt8)
    (offset : Nat) (closed : ∀ piece ∈ pieces, ClosedPiece width sentinel piece) :
    split width sentinel ⟨pieces.flatten ++ rest, offset⟩ =
      layout offset pieces ++ split width sentinel ⟨rest, offset + pieces.flatten.length⟩ := by
  simp only [split_eq_splitBlocks]
  exact splitBlocks_flatten_append hw pieces rest offset closed

theorem exists_split_eq_cons (hw : 0 < width) (bytes : List UInt8) (offset : Nat) :
    ∃ piece more, split width sentinel ⟨bytes, offset⟩ = piece :: more ∧
      bytes.take width <+: piece.bytes := by
  simp only [split_eq_splitBlocks]
  exact exists_splitBlocks_eq_cons hw bytes offset

/-- The splitter agrees with the block reading. Its cuts are exactly the positive multiples of
the width, up to the length, that end a block of sentinels, in increasing order; its pieces run
between consecutive cuts, from the start and to the end, each at the offset where it starts; they
join back to the bytes; and a width of zero keeps the segment whole. -/
theorem split_cuts_at_sentinel_blocks (width : Nat) (sentinel : UInt8) (bytes : List UInt8)
    (offset : Nat) :
    split width sentinel ⟨bytes, offset⟩ = splitBlocks width sentinel ⟨bytes, offset⟩ ∧
      split width sentinel ⟨bytes, offset⟩ =
        piecesBetween bytes offset 0 (cutPoints width sentinel bytes) ∧
      (∀ e, e ∈ cutPoints width sentinel bytes ↔
        0 < e ∧ e ≤ bytes.length ∧ width ∣ e ∧
          ∀ byte ∈ (bytes.take e).drop (e - width), byte = sentinel) ∧
      (cutPoints width sentinel bytes).Pairwise (· < ·) ∧
      ((split width sentinel ⟨bytes, offset⟩).map (·.bytes)).flatten = bytes ∧
      split 0 sentinel ⟨bytes, offset⟩ = [⟨bytes, offset⟩] := by
  refine ⟨split_eq_splitBlocks width sentinel _, split_eq_piecesBetween width sentinel bytes offset,
    fun e => mem_cutPoints, pairwise_lt_cutPoints bytes, bytes_join_split width sentinel _, ?_⟩
  simp [split]

end ListingMap.Segment
