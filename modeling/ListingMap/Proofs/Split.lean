import Mathlib.Data.List.Chain
import ListingMap.Segment

/-!
# Splitting at closed pieces

A split can be read block by block: view the bytes as consecutive blocks of `width` bytes and
close a piece after every complete block made of sentinels only (`Segment.splitBlocks`). This
file is the theory of that reading; `Segment.split_eq_splitBlocks` shows that the splitter, which
counts runs byte by byte, cuts the same pieces.

The block reading behaves well on concatenations. When the first part has whole blocks and ends
on a sentinel block, the split of the whole is the split of the first part, less its empty last
piece, followed by the split of the rest at its own offset (`splitBlocks_append_of_closed`).
Nothing after such a boundary can move a split point before it.

A *closed piece* is a byte string that a split closes at its end and nowhere else. Strings laid
one after another (`Segment.layout`) split back into themselves when each is a closed piece
(`splitBlocks_flatten_append`). The sections, chunks and sub-records of an artifact are
recovered this way.

A block of twice the width is a pair of blocks. So a string of whole blocks in which no two
sentinel blocks stand side by side has no sentinel block of twice the width
(`closes_two_mul_eq_false`).
-/

namespace ListingMap.Segment

variable {width : Nat} {sentinel : UInt8}

/-- The bytes in consecutive blocks of `width`, the last block possibly shorter. A width of
zero is read as one, which only matters in that `splitBlocks` then finds no complete block. -/
def blocks (width : Nat) : List UInt8 → List (List UInt8)
  | [] => []
  | byte :: rest => (byte :: rest.take (width - 1)) :: blocks width (rest.drop (width - 1))
termination_by bytes => bytes.length
decreasing_by simp only [List.length_drop, List.length_cons]; omega

/-- A block that closes a piece: `width` bytes, every one the sentinel. -/
def closes (width : Nat) (sentinel : UInt8) (block : List UInt8) : Bool :=
  block.length == width && block.all (· == sentinel)

/-- Cuts a sequence of blocks into pieces. `pending` holds the bytes of the open piece, which
starts at `start`; a closing block ends it, and the open piece is the last one when the blocks
run out. -/
def cut (width : Nat) (sentinel : UInt8) (start : Nat) (pending : List UInt8) :
    List (List UInt8) → List Segment
  | [] => [⟨pending, start⟩]
  | block :: more =>
      if closes width sentinel block then
        ⟨pending ++ block, start⟩ :: cut width sentinel (start + pending.length + width) [] more
      else
        cut width sentinel start (pending ++ block) more

/-- Cuts a segment after every complete block of `width` sentinel bytes. -/
def splitBlocks (width : Nat) (sentinel : UInt8) (segment : Segment) : List Segment :=
  cut width sentinel segment.offset [] (blocks width segment.bytes)

theorem join_blocks (width : Nat) (bytes : List UInt8) : (blocks width bytes).flatten = bytes := by
  induction bytes using blocks.induct width with
  | case1 => simp [blocks]
  | case2 byte rest ih =>
    rw [blocks, List.flatten_cons, ih]
    simp

theorem bytes_join_cut (width : Nat) (sentinel : UInt8) (start : Nat) (pending : List UInt8)
    (blocks : List (List UInt8)) :
    ((cut width sentinel start pending blocks).map (·.bytes)).flatten =
      pending ++ blocks.flatten := by
  induction blocks generalizing start pending with
  | nil => simp [cut]
  | cons block more ih =>
    unfold cut
    split <;> simp [ih]

theorem bytes_join_splitBlocks (width : Nat) (sentinel : UInt8) (segment : Segment) :
    ((segment.splitBlocks width sentinel).map (·.bytes)).flatten = segment.bytes := by
  simp [splitBlocks, bytes_join_cut, join_blocks]

/-! ## Blocks -/

@[simp]
theorem blocks_nil (width : Nat) : blocks width [] = [] := by
  rw [blocks]

theorem blocks_cons (width : Nat) (byte : UInt8) (rest : List UInt8) :
    blocks width (byte :: rest) =
      (byte :: rest.take (width - 1)) :: blocks width (rest.drop (width - 1)) := by
  rw [blocks]

theorem blocks_ne_nil {bytes : List UInt8} (nonempty : bytes ≠ []) : blocks width bytes ≠ [] := by
  obtain ⟨byte, rest, rfl⟩ := List.exists_cons_of_ne_nil nonempty
  simp [blocks_cons]

theorem blocks_of_length_le {block : List UInt8} (nonempty : block ≠ [])
    (short : block.length ≤ width) : blocks width block = [block] := by
  obtain ⟨byte, rest, rfl⟩ := List.exists_cons_of_ne_nil nonempty
  have fits : rest.length ≤ width - 1 := by
    simp only [List.length_cons] at short
    omega
  rw [blocks_cons, List.take_of_length_le fits, List.drop_eq_nil_of_le fits, blocks_nil]

theorem blocks_append (hw : 0 < width) {first : List UInt8} (second : List UInt8)
    (aligned : width ∣ first.length) :
    blocks width (first ++ second) = blocks width first ++ blocks width second := by
  induction first using blocks.induct width with
  | case1 => simp
  | case2 byte rest inductionHypothesis =>
      have long : width - 1 ≤ rest.length := by
        have positive : 0 < (byte :: rest).length := by simp
        have := Nat.le_of_dvd positive aligned
        simp only [List.length_cons] at this
        omega
      have alignedRest : width ∣ (rest.drop (width - 1)).length := by
        have := Nat.dvd_sub aligned (Nat.dvd_refl width)
        simp only [List.length_cons] at this
        simpa [List.length_drop, show rest.length + 1 - width = rest.length - (width - 1)
          by omega] using this
      rw [List.cons_append, blocks_cons, blocks_cons, List.take_append_of_le_length long,
        List.drop_append_of_le_length long, inductionHypothesis alignedRest, List.cons_append]

theorem length_of_mem_blocks (hw : 0 < width) {bytes block : List UInt8}
    (aligned : width ∣ bytes.length) (mem : block ∈ blocks width bytes) : block.length = width := by
  induction bytes using blocks.induct width with
  | case1 => simp at mem
  | case2 byte rest inductionHypothesis =>
      have long : width - 1 ≤ rest.length := by
        have := Nat.le_of_dvd (by simp) aligned
        simp only [List.length_cons] at this
        omega
      rw [blocks_cons] at mem
      rcases List.mem_cons.mp mem with rfl | later
      · simp only [List.length_cons, List.length_take]
        omega
      · apply inductionHypothesis _ later
        have := Nat.dvd_sub aligned (Nat.dvd_refl width)
        simp only [List.length_cons] at this
        simpa [List.length_drop, show rest.length + 1 - width = rest.length - (width - 1)
          by omega] using this

theorem blocks_flatten (hw : 0 < width) (parts : List (List UInt8))
    (whole : ∀ part ∈ parts, part.length = width) : blocks width parts.flatten = parts := by
  induction parts with
  | nil => simp
  | cons part more inductionHypothesis =>
      have partLength := whole part (by simp)
      have nonempty : part ≠ [] := by
        intro empty
        simp [empty] at partLength
        omega
      rw [List.flatten_cons, blocks_append hw _ (by simp [partLength]),
        blocks_of_length_le nonempty partLength.le,
        inductionHypothesis fun other mem => whole other (by simp [mem])]
      rfl

theorem closes_iff (width : Nat) (sentinel : UInt8) (block : List UInt8) :
    closes width sentinel block = true ↔ block = List.replicate width sentinel := by
  simp only [closes, Bool.and_eq_true, beq_iff_eq, List.all_eq_true]
  constructor
  · rintro ⟨length, all⟩
    rw [List.eq_replicate_iff]
    exact ⟨length, fun byte mem => by simpa using all byte mem⟩
  · rintro rfl
    simp

/-! ## Cutting -/

theorem cut_ne_nil (start : Nat) (pending : List UInt8) (blocks : List (List UInt8)) :
    cut width sentinel start pending blocks ≠ [] := by
  cases blocks with
  | nil => simp [cut]
  | cons block more =>
      unfold cut
      split <;> simp [cut_ne_nil]

theorem cut_append_of_opening (start : Nat) (pending : List UInt8)
    {first : List (List UInt8)} (second : List (List UInt8))
    (opening : ∀ block ∈ first, closes width sentinel block = false) :
    cut width sentinel start pending (first ++ second) =
      cut width sentinel start (pending ++ first.flatten) second := by
  induction first generalizing pending with
  | nil => simp
  | cons block more inductionHypothesis =>
      have blockOpens := opening block (by simp)
      rw [List.cons_append, cut, if_neg (by simp [blockOpens]),
        inductionHypothesis (pending ++ block) fun other mem => opening other (by simp [mem])]
      simp

/-- Once a closing block is cut, the rest is cut afresh, from the offset just after it. -/
theorem cut_append_closing (start : Nat) (pending : List UInt8)
    (first : List (List UInt8)) {block : List UInt8} (second : List (List UInt8))
    (closing : closes width sentinel block = true) :
    cut width sentinel start pending (first ++ block :: second) =
      (cut width sentinel start pending (first ++ [block])).dropLast ++
        cut width sentinel (start + pending.length + first.flatten.length + width) [] second := by
  induction first generalizing start pending with
  | nil =>
      simp [cut, closing]
  | cons head more inductionHypothesis =>
      by_cases headCloses : closes width sentinel head = true
      · have headLength : head.length = width := by
          rw [(closes_iff width sentinel head).mp headCloses, List.length_replicate]
        simp only [List.cons_append, cut, headCloses, if_true, inductionHypothesis,
          List.dropLast_cons_of_ne_nil (cut_ne_nil _ _ _), List.flatten_cons, List.length_append,
          List.length_nil, headLength]
        congr 3
        omega
      · simp only [List.cons_append, cut, headCloses, Bool.false_eq_true, if_false,
          inductionHypothesis, List.flatten_cons, List.length_append]
        congr 2
        omega

/-! ## Splitting a concatenation -/

@[simp]
theorem splitBlocks_nil (width : Nat) (sentinel : UInt8) (offset : Nat) :
    splitBlocks width sentinel ⟨[], offset⟩ = [⟨[], offset⟩] := by
  simp [splitBlocks, cut]

/-- Bytes that end on an aligned sentinel block close every piece of their split: appending
more bytes only continues the split, from the offset where they start. -/
theorem splitBlocks_append_of_closed {first : List UInt8} (second : List UInt8) (offset : Nat)
    (aligned : width ∣ first.length)
    (closed : first = [] ∨ List.replicate width sentinel <:+ first) :
    splitBlocks width sentinel ⟨first ++ second, offset⟩ =
      (splitBlocks width sentinel ⟨first, offset⟩).dropLast ++
        splitBlocks width sentinel ⟨second, offset + first.length⟩ := by
  rcases closed with rfl | ⟨body, rfl⟩
  · simp
  rcases Nat.eq_zero_or_pos width with rfl | hw
  · have empty : body = [] := by simpa using aligned
    simp [empty]
  have alignedBody : width ∣ body.length := by
    simpa using (Nat.dvd_add_left (Nat.dvd_refl width)).mp (by simpa using aligned)
  have closing : closes width sentinel (List.replicate width sentinel) = true := by
    rw [closes_iff]
  have sentinelBlock : blocks width (List.replicate width sentinel) =
      [List.replicate width sentinel] :=
    blocks_of_length_le (by simp; omega) (by simp)
  simp only [splitBlocks]
  rw [List.append_assoc, blocks_append hw _ alignedBody, blocks_append hw _ (by simp),
    blocks_append hw _ alignedBody, sentinelBlock, List.singleton_append,
    cut_append_closing _ _ _ _ closing, join_blocks]
  simp [Nat.add_assoc]

/-- A byte string that a split closes at its end and nowhere before: whole blocks, of which the
last is all sentinel and no other is. -/
def ClosedPiece (width : Nat) (sentinel : UInt8) (piece : List UInt8) : Prop :=
  ∃ body, piece = body ++ List.replicate width sentinel ∧ width ∣ body.length ∧
    ∀ block ∈ blocks width body, closes width sentinel block = false

theorem splitBlocks_of_closedPiece (hw : 0 < width) {piece : List UInt8} (offset : Nat)
    (closed : ClosedPiece width sentinel piece) :
    splitBlocks width sentinel ⟨piece, offset⟩ =
      [⟨piece, offset⟩, ⟨[], offset + piece.length⟩] := by
  obtain ⟨body, rfl, aligned, opening⟩ := closed
  have sentinelBlock : blocks width (List.replicate width sentinel) =
      [List.replicate width sentinel] :=
    blocks_of_length_le (by simp; omega) (by simp)
  simp only [splitBlocks]
  rw [blocks_append hw _ aligned, sentinelBlock, cut_append_of_opening _ _ _ opening,
    join_blocks]
  simp [cut, closes_iff, Nat.add_assoc]

theorem splitBlocks_closedPiece_append (hw : 0 < width) {piece : List UInt8} (rest : List UInt8)
    (offset : Nat) (closed : ClosedPiece width sentinel piece) :
    splitBlocks width sentinel ⟨piece ++ rest, offset⟩ =
      ⟨piece, offset⟩ :: splitBlocks width sentinel ⟨rest, offset + piece.length⟩ := by
  have aligned : width ∣ piece.length := by
    obtain ⟨body, rfl, alignedBody, -⟩ := closed
    simpa using Nat.dvd_add alignedBody (Nat.dvd_refl width)
  have ending : List.replicate width sentinel <:+ piece := by
    obtain ⟨body, rfl, -, -⟩ := closed
    exact List.suffix_append body _
  rw [splitBlocks_append_of_closed rest offset aligned (.inr ending),
    splitBlocks_of_closedPiece hw offset closed]
  rfl

/-- Byte strings laid one after another from `offset`, each as a segment at the offset where it
starts. -/
def layout (offset : Nat) : List (List UInt8) → List Segment
  | [] => []
  | piece :: rest => ⟨piece, offset⟩ :: layout (offset + piece.length) rest

@[simp]
theorem map_bytes_layout (offset : Nat) (pieces : List (List UInt8)) :
    (layout offset pieces).map (·.bytes) = pieces := by
  induction pieces generalizing offset with
  | nil => rfl
  | cons piece rest inductionHypothesis => simp [layout, inductionHypothesis]

theorem bytes_mem_of_mem_layout {offset : Nat} {pieces : List (List UInt8)} {segment : Segment}
    (mem : segment ∈ layout offset pieces) : segment.bytes ∈ pieces := by
  rw [← map_bytes_layout offset pieces]
  exact List.mem_map_of_mem mem

/-- Closed pieces laid one after another split back into themselves; the split then goes on
with whatever follows them. -/
theorem splitBlocks_flatten_append (hw : 0 < width) (pieces : List (List UInt8)) (rest : List UInt8)
    (offset : Nat) (closed : ∀ piece ∈ pieces, ClosedPiece width sentinel piece) :
    splitBlocks width sentinel ⟨pieces.flatten ++ rest, offset⟩ =
      layout offset pieces ++
        splitBlocks width sentinel ⟨rest, offset + pieces.flatten.length⟩ := by
  induction pieces generalizing offset with
  | nil => simp [layout]
  | cons piece more inductionHypothesis =>
      rw [List.flatten_cons, List.append_assoc,
        splitBlocks_closedPiece_append hw _ offset (closed piece (by simp)),
        inductionHypothesis _ fun other mem => closed other (by simp [mem])]
      simp [layout, Nat.add_assoc]

theorem exists_splitBlocks_eq_cons (hw : 0 < width) (bytes : List UInt8) (offset : Nat) :
    ∃ piece more, splitBlocks width sentinel ⟨bytes, offset⟩ = piece :: more ∧
      bytes.take width <+: piece.bytes := by
  -- The open piece only ever grows until a block closes it.
  have grows : ∀ (start : Nat) (pending : List UInt8) (blocks : List (List UInt8)),
      ∃ piece more, cut width sentinel start pending blocks = piece :: more ∧
        pending <+: piece.bytes := by
    intro start pending blocks
    induction blocks generalizing pending with
    | nil => exact ⟨_, _, rfl, List.prefix_refl _⟩
    | cons block rest inductionHypothesis =>
        unfold cut
        split
        · exact ⟨_, _, rfl, List.prefix_append _ _⟩
        · obtain ⟨piece, more, equal, isPrefix⟩ := inductionHypothesis (pending ++ block)
          exact ⟨piece, more, equal, (List.prefix_append _ _).trans isPrefix⟩
  cases bytes with
  | nil => exact ⟨_, _, splitBlocks_nil width sentinel offset, by simp⟩
  | cons byte rest =>
      have firstBlock : (byte :: rest).take width = byte :: rest.take (width - 1) := by
        obtain ⟨less, rfl⟩ := Nat.exists_eq_add_of_lt hw
        simp
      simp only [splitBlocks, blocks_cons, firstBlock]
      unfold cut
      split
      · exact ⟨_, _, rfl, by simp⟩
      · obtain ⟨piece, more, equal, isPrefix⟩ := grows offset ([] ++ _) (blocks width _)
        exact ⟨piece, more, equal, by simpa using isPrefix⟩

/-! ## Blocks of twice the width -/

/-- Two blocks that are not both all sentinel. -/
def Apart (width : Nat) (sentinel : UInt8) (first second : List UInt8) : Prop :=
  ¬(closes width sentinel first = true ∧ closes width sentinel second = true)

/-- In a string of whole blocks where no two sentinel blocks stand side by side, no block of
twice the width is all sentinel. -/
theorem closes_two_mul_eq_false (hw : 0 < width) :
    ∀ (parts : List (List UInt8)), (∀ part ∈ parts, part.length = width) →
      parts.IsChain (Apart width sentinel) →
      ∀ block ∈ blocks (2 * width) parts.flatten, closes (2 * width) sentinel block = false
  | [], _, _ => by simp
  | [part], whole, _ => by
      have partLength := whole part (by simp)
      have nonempty : part ≠ [] := by
        intro empty
        simp [empty] at partLength
        omega
      rw [List.flatten_singleton, blocks_of_length_le nonempty (by omega)]
      intro block mem
      simp only [List.mem_singleton] at mem
      subst mem
      simp [closes, partLength]
      omega
  | first :: second :: rest, whole, apart => by
      have firstLength := whole first (by simp)
      have secondLength := whole second (by simp)
      have pairClosed : Apart width sentinel first second := (List.isChain_cons_cons.mp apart).1
      have pairLength : (first ++ second).length = 2 * width := by
        simp [firstLength, secondLength]
        omega
      have pair : blocks (2 * width) (first ++ second) = [first ++ second] :=
        blocks_of_length_le (by simp [← List.length_eq_zero_iff, firstLength]; omega)
          pairLength.le
      rw [List.flatten_cons, List.flatten_cons, ← List.append_assoc,
        blocks_append (by omega) _ (by simp [pairLength]), pair]
      intro block mem
      rcases List.mem_cons.mp mem with rfl | later
      · rw [Bool.eq_false_iff]
        intro pairCloses
        rw [closes_iff, List.append_eq_replicate_iff] at pairCloses
        obtain ⟨-, firstAll, secondAll⟩ := pairCloses
        rw [firstLength] at firstAll
        rw [secondLength] at secondAll
        exact pairClosed ⟨(closes_iff _ _ _).mpr firstAll, (closes_iff _ _ _).mpr secondAll⟩
      · exact closes_two_mul_eq_false hw rest (fun part mem => whole part (by simp [mem]))
          (List.isChain_cons_cons.mp apart).2.tail block (by simpa using later)

end ListingMap.Segment
