import Mathlib.Data.List.Sort
import ListingMap.Proofs.Split

/-!
# Where a split cuts

`Segment.splitBlocks` walks a segment block by block. Read as positions in the bytes, it cuts at
every positive multiple `e` of the width, up to the length, where the `width` bytes before `e` are
all the sentinel (`cutPoints`). The pieces run from the start to the first cut, from each cut to
the next, and from the last cut to the end, so the last piece may be empty; each keeps the offset
in the buffer where it starts (`piecesBetween`).

The main result, `splitBlocks_eq_piecesBetween`, says that the block reading gives exactly these
pieces, for every width, sentinel and segment. A width of zero has no cut points, so the segment
stays whole.

The proof cuts at the least cut point. The bytes before it are a closed piece, since a block of
sentinels among them would be an earlier cut point (`splitBlocks_of_least_cutPoint`), and the cut
points after it are those of the rest, shifted (`cutPoints_drop_of_cons`).
-/

namespace ListingMap.Segment

variable {width : Nat} {sentinel : UInt8}

/-- The positions where a split closes a piece: every positive multiple `e` of the width, up to
the length, such that the `width` bytes before `e` are all the sentinel. -/
def cutPoints (width : Nat) (sentinel : UInt8) (bytes : List UInt8) : List Nat :=
  (List.range' 1 bytes.length).filter fun e =>
    e % width == 0 && ((bytes.take e).drop (e - width)).all (· == sentinel)

/-- The pieces of `bytes` from `start` on, cut at each of `points`, each at the offset in the
buffer where it starts. -/
def piecesBetween (bytes : List UInt8) (offset : Nat) : Nat → List Nat → List Segment
  | start, [] => [⟨bytes.drop start, offset + start⟩]
  | start, point :: points =>
      ⟨(bytes.take point).drop start, offset + start⟩ :: piecesBetween bytes offset point points

/-! ## Cut points -/

theorem mem_cutPoints {bytes : List UInt8} {e : Nat} :
    e ∈ cutPoints width sentinel bytes ↔
      0 < e ∧ e ≤ bytes.length ∧ width ∣ e ∧
        ∀ byte ∈ (bytes.take e).drop (e - width), byte = sentinel := by
  simp only [cutPoints, List.mem_filter, List.mem_range'_1, Bool.and_eq_true, beq_iff_eq,
    List.all_eq_true, Nat.dvd_iff_mod_eq_zero]
  constructor
  · rintro ⟨⟨least, below⟩, aligned, all⟩
    exact ⟨by omega, by omega, aligned, all⟩
  · rintro ⟨positive, within, aligned, all⟩
    exact ⟨⟨by omega, by omega⟩, aligned, all⟩

theorem pairwise_lt_cutPoints (bytes : List UInt8) :
    (cutPoints width sentinel bytes).Pairwise (· < ·) :=
  (List.pairwise_lt_range' 1).filter _

/-- A run of sentinels counts only from an aligned position: the run from position 1 closes a
piece at 8, not at 5. -/
example : cutPoints 4 0 [1, 0, 0, 0, 0, 0, 0, 0, 3] = [8] := by decide

theorem width_pos_of_mem_cutPoints {bytes : List UInt8} {e : Nat}
    (mem : e ∈ cutPoints width sentinel bytes) : 0 < width ∧ width ≤ e := by
  obtain ⟨positive, -, aligned, -⟩ := mem_cutPoints.mp mem
  have widthPos : 0 < width := Nat.pos_of_ne_zero fun zero => by
    rw [zero, Nat.zero_dvd] at aligned
    omega
  exact ⟨widthPos, Nat.le_of_dvd positive aligned⟩

theorem drop_take_of_mem_cutPoints {bytes : List UInt8} {e : Nat}
    (mem : e ∈ cutPoints width sentinel bytes) :
    (bytes.take e).drop (e - width) = List.replicate width sentinel := by
  obtain ⟨-, within, -, all⟩ := mem_cutPoints.mp mem
  have fits := (width_pos_of_mem_cutPoints mem).2
  rw [List.eq_replicate_iff]
  exact ⟨by simp; omega, all⟩

theorem mem_cutPoints_of_mem_take {bytes : List UInt8} {length e : Nat}
    (mem : e ∈ cutPoints width sentinel (bytes.take length)) :
    e ∈ cutPoints width sentinel bytes := by
  obtain ⟨positive, within, aligned, all⟩ := mem_cutPoints.mp mem
  have within' : e ≤ length := le_trans within (by simp)
  rw [List.take_take, Nat.min_eq_left within'] at all
  exact mem_cutPoints.mpr ⟨positive, le_trans within (by simp), aligned, all⟩

/-- The block before position `e` of the rest after `start` is the block before `e + start` of
the whole. -/
theorem drop_take_drop (bytes : List UInt8) {start e : Nat} (fits : width ≤ e) :
    ((bytes.drop start).take e).drop (e - width) =
      (bytes.take (e + start)).drop (e + start - width) := by
  rw [List.take_drop, List.drop_drop, Nat.add_comm start e]
  congr 1
  omega

theorem mem_cutPoints_drop {bytes : List UInt8} {start e : Nat} (aligned : width ∣ start) :
    e ∈ cutPoints width sentinel (bytes.drop start) ↔
      0 < e ∧ e + start ∈ cutPoints width sentinel bytes := by
  rw [mem_cutPoints, mem_cutPoints]
  constructor
  · rintro ⟨positive, within, alignedE, all⟩
    have fits : width ≤ e := Nat.le_of_dvd positive alignedE
    simp only [List.length_drop] at within
    exact ⟨positive, by omega, by omega, Nat.dvd_add alignedE aligned,
      drop_take_drop bytes fits ▸ all⟩
  · rintro ⟨positive, -, within, alignedE, all⟩
    have alignedE' : width ∣ e := (Nat.dvd_add_left aligned).mp alignedE
    have fits : width ≤ e := Nat.le_of_dvd positive alignedE'
    exact ⟨positive, by simp; omega, alignedE', (drop_take_drop bytes fits).symm ▸ all⟩

theorem le_of_cutPoints_eq_cons {bytes : List UInt8} {e : Nat} {more : List Nat}
    (points : cutPoints width sentinel bytes = e :: more) :
    ∀ other ∈ cutPoints width sentinel bytes, e ≤ other := by
  have sorted : (cutPoints width sentinel bytes).Pairwise (· < ·) := pairwise_lt_cutPoints bytes
  rw [points, List.pairwise_cons] at sorted
  intro other member
  rw [points, List.mem_cons] at member
  rcases member with rfl | later
  · exact le_refl _
  · exact (sorted.1 other later).le

theorem cutPoints_zero (sentinel : UInt8) (bytes : List UInt8) : cutPoints 0 sentinel bytes = [] :=
  List.eq_nil_iff_forall_not_mem.mpr fun _ mem => (width_pos_of_mem_cutPoints mem).1.false

/-! ## Blocks and cut points -/

theorem ne_nil_of_mem_blocks {bytes block : List UInt8} (mem : block ∈ blocks width bytes) :
    block ≠ [] := by
  induction bytes using blocks.induct width with
  | case1 => simp at mem
  | case2 byte rest inductionHypothesis =>
      rw [blocks_cons] at mem
      rcases List.mem_cons.mp mem with rfl | later
      · simp
      · exact inductionHypothesis later

theorem exists_eq_of_mem_blocks (hw : 0 < width) {bytes block : List UInt8}
    (mem : block ∈ blocks width bytes) :
    ∃ index, block = (bytes.drop (width * index)).take width := by
  induction bytes using blocks.induct width with
  | case1 => simp at mem
  | case2 byte rest inductionHypothesis =>
      rw [blocks_cons] at mem
      rcases List.mem_cons.mp mem with rfl | later
      · refine ⟨0, ?_⟩
        obtain ⟨less, rfl⟩ := Nat.exists_eq_add_of_lt hw
        simp
      · obtain ⟨index, rfl⟩ := inductionHypothesis later
        refine ⟨index + 1, ?_⟩
        rw [List.drop_drop, Nat.mul_succ, List.drop_cons (by omega)]
        congr 2
        omega

theorem exists_mem_cutPoints_of_closes {bytes block : List UInt8}
    (mem : block ∈ blocks width bytes) (closing : closes width sentinel block = true) :
    ∃ e ∈ cutPoints width sentinel bytes, (bytes.take e).drop (e - width) = block := by
  have full : block = List.replicate width sentinel := (closes_iff width sentinel block).mp closing
  have hw : 0 < width := by
    have := ne_nil_of_mem_blocks mem
    rw [full] at this
    simpa [Nat.pos_iff_ne_zero] using this
  obtain ⟨index, slice⟩ := exists_eq_of_mem_blocks hw mem
  have length : ((bytes.drop (width * index)).take width).length = width := by
    rw [← slice, full, List.length_replicate]
  simp only [List.length_take, List.length_drop] at length
  have sliceEq :
      (bytes.take (width * index + width)).drop (width * index + width - width) = block := by
    rw [Nat.add_sub_cancel, List.drop_take, Nat.add_sub_cancel_left, slice]
  refine ⟨width * index + width, mem_cutPoints.mpr ⟨by omega, by omega, ?_, ?_⟩, sliceEq⟩
  · exact Nat.dvd_add (Nat.dvd_mul_right width index) (Nat.dvd_refl width)
  · rw [sliceEq, full]
    intro byte member
    exact List.eq_of_mem_replicate member

/-! ## The split at its least cut point -/

theorem splitBlocks_of_cutPoints_eq_nil {bytes : List UInt8} (offset : Nat)
    (none : cutPoints width sentinel bytes = []) :
    splitBlocks width sentinel ⟨bytes, offset⟩ = [⟨bytes, offset⟩] := by
  have opening : ∀ block ∈ blocks width bytes, closes width sentinel block = false := by
    intro block mem
    rw [Bool.eq_false_iff]
    intro closing
    obtain ⟨e, member, -⟩ := exists_mem_cutPoints_of_closes mem closing
    simp [none] at member
  simp only [splitBlocks]
  rw [← List.append_nil (blocks width bytes), cut_append_of_opening _ _ _ opening, join_blocks]
  simp [cut]

/-- The bytes up to the least cut point are the first piece of the split, and the rest is split
afresh from there. -/
theorem splitBlocks_of_least_cutPoint {bytes : List UInt8} {e : Nat} (offset : Nat)
    (mem : e ∈ cutPoints width sentinel bytes)
    (least : ∀ other ∈ cutPoints width sentinel bytes, e ≤ other) :
    splitBlocks width sentinel ⟨bytes, offset⟩ =
      ⟨bytes.take e, offset⟩ :: splitBlocks width sentinel ⟨bytes.drop e, offset + e⟩ := by
  obtain ⟨hw, fits⟩ := width_pos_of_mem_cutPoints mem
  obtain ⟨-, within, aligned, -⟩ := mem_cutPoints.mp mem
  have closed : ClosedPiece width sentinel (bytes.take e) := by
    refine ⟨bytes.take (e - width), ?_, ?_, ?_⟩
    · have body : bytes.take (e - width) = (bytes.take e).take (e - width) := by
        rw [List.take_take, Nat.min_eq_left (by omega)]
      rw [← drop_take_of_mem_cutPoints mem, body, List.take_append_drop]
    · simpa [Nat.min_eq_left (show e - width ≤ bytes.length by omega)] using
        Nat.dvd_sub aligned (Nat.dvd_refl width)
    · intro block member
      rw [Bool.eq_false_iff]
      intro closing
      obtain ⟨earlier, earlierMem, -⟩ := exists_mem_cutPoints_of_closes member closing
      have below : earlier ≤ e - width := by
        have := (mem_cutPoints.mp earlierMem).2.1
        simp at this
        omega
      have := least earlier (mem_cutPoints_of_mem_take earlierMem)
      omega
  have whole := splitBlocks_closedPiece_append hw (bytes.drop e) offset closed
  rwa [List.take_append_drop, List.length_take, Nat.min_eq_left within] at whole

theorem cutPoints_drop_of_cons {bytes : List UInt8} {e : Nat} {more : List Nat}
    (points : cutPoints width sentinel bytes = e :: more) :
    cutPoints width sentinel (bytes.drop e) = more.map (· - e) := by
  have sorted : (cutPoints width sentinel bytes).Pairwise (· < ·) := pairwise_lt_cutPoints bytes
  rw [points, List.pairwise_cons] at sorted
  obtain ⟨above, sortedMore⟩ := sorted
  have aligned : width ∣ e := (mem_cutPoints.mp (points ▸ List.mem_cons_self)).2.2.1
  have sortedShifted : (more.map (· - e)).Pairwise (· < ·) := by
    rw [List.pairwise_map]
    exact sortedMore.imp_of_mem fun {a b} memA memB lt => by
      have := above a memA
      have := above b memB
      omega
  have sameMembers :
      ∀ x, x ∈ cutPoints width sentinel (bytes.drop e) ↔ x ∈ more.map (· - e) := by
    intro x
    rw [mem_cutPoints_drop aligned, points, List.mem_cons, List.mem_map]
    constructor
    · rintro ⟨positive, equal | later⟩
      · omega
      · exact ⟨x + e, later, by omega⟩
    · rintro ⟨y, later, rfl⟩
      have := above y later
      exact ⟨by omega, .inr (by rwa [Nat.sub_add_cancel (by omega)])⟩
  apply List.Perm.eq_of_pairwise (fun a b _ _ lt lt' => absurd (lt.trans lt') (lt_irrefl a))
    (pairwise_lt_cutPoints _) sortedShifted
  exact (List.perm_ext_iff_of_nodup (pairwise_lt_cutPoints _).nodup sortedShifted.nodup).mpr
    sameMembers

/-! ## Pieces between cut points -/

/-- Pieces between cut points at or after `start` do not depend on the bytes before `start`. -/
theorem piecesBetween_drop (bytes : List UInt8) (offset : Nat) {start first : Nat}
    {points : List Nat} (before : start ≤ first) (after : ∀ point ∈ points, start ≤ point) :
    piecesBetween (bytes.drop start) (offset + start) (first - start) (points.map (· - start)) =
      piecesBetween bytes offset first points := by
  induction points generalizing first with
  | nil =>
      simp only [piecesBetween, List.map_nil, List.drop_drop, Nat.add_sub_cancel' before,
        Nat.add_assoc]
  | cons point more inductionHypothesis =>
      have next : start ≤ point := after point List.mem_cons_self
      have piece : ((bytes.drop start).take (point - start)).drop (first - start) =
          (bytes.take point).drop first := by
        rw [List.take_drop, Nat.add_sub_cancel' next, List.drop_drop, Nat.add_sub_cancel' before]
      simp only [piecesBetween, List.map_cons, piece, Nat.add_assoc, Nat.add_sub_cancel' before,
        inductionHypothesis next fun other mem => after other (List.mem_cons_of_mem _ mem)]

/-- A split cuts exactly at the cut points, and every piece keeps the offset where it starts. -/
theorem splitBlocks_eq_piecesBetween (width : Nat) (sentinel : UInt8) (bytes : List UInt8)
    (offset : Nat) :
    splitBlocks width sentinel ⟨bytes, offset⟩ =
      piecesBetween bytes offset 0 (cutPoints width sentinel bytes) := by
  -- Strong induction on the length: the rest after the least cut point is shorter.
  induction sizeEq : bytes.length using Nat.strong_induction_on generalizing bytes offset with
  | _ size inductionHypothesis =>
      cases points : cutPoints width sentinel bytes with
      | nil => simp [splitBlocks_of_cutPoints_eq_nil offset points, piecesBetween]
      | cons e more =>
          have mem : e ∈ cutPoints width sentinel bytes := points ▸ List.mem_cons_self
          have least := le_of_cutPoints_eq_cons points
          obtain ⟨positive, within, -, -⟩ := mem_cutPoints.mp mem
          have shorter : (bytes.drop e).length < size := by simp [← sizeEq]; omega
          rw [splitBlocks_of_least_cutPoint offset mem least,
            inductionHypothesis _ shorter (bytes.drop e) (offset + e) rfl,
            cutPoints_drop_of_cons points, ← Nat.sub_self e,
            piecesBetween_drop bytes offset le_rfl fun other member => least other
              (points ▸ List.mem_cons_of_mem _ member)]
          simp [piecesBetween]

end ListingMap.Segment
