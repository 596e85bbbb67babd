import Mathlib.Data.List.TakeWhile
import ListingMap.Include.Section
import ListingMap.Proofs.SplitRun

/-!
# Decoding a section piece by piece

A module-line section is decoded chunk by chunk and the decoded chunks are joined. In
`Reported`, the value of a `mapM` is the list of the values of its steps and its diagnostics
are theirs, in order (`value_mapM`, `diagnostics_mapM`). So the decoded section is the join of
its decoded chunks (`value_decode`, `diagnostics_decode`).

The main result, `decode_append_of_closed`, cuts a section at a chunk boundary. The first part
is made of whole chunks and, unless it is empty, ends in a block of eight zero bytes. If a
terminator starts on one of its chunks, nothing after the first part is ever read. Otherwise
decoding the whole section gives the first part decoded, followed by the rest decoded at its own
offset, with includes, unclassified sub-records and diagnostics each joined.
-/

namespace ListingMap

namespace Reported

theorem ext {α : Type} {first second : Reported α} (value : first.value = second.value)
    (diagnostics : first.diagnostics = second.diagnostics) : first = second := by
  cases first
  cases second
  simp_all

@[simp]
theorem value_map {α β : Type} (change : α → β) (result : Reported α) :
    (change <$> result).value = change result.value := rfl

@[simp]
theorem diagnostics_map {α β : Type} (change : α → β) (result : Reported α) :
    (change <$> result).diagnostics = result.diagnostics :=
  List.append_nil _

@[simp]
theorem value_mapM {α β : Type} (step : α → Reported β) (items : List α) :
    (items.mapM step).value = items.map fun item => (step item).value := by
  induction items with
  | nil => rfl
  | cons item rest inductionHypothesis => simp [List.mapM_cons, inductionHypothesis]

@[simp]
theorem diagnostics_mapM {α β : Type} (step : α → Reported β) (items : List α) :
    (items.mapM step).diagnostics = items.flatMap fun item => (step item).diagnostics := by
  induction items with
  | nil => rfl
  | cons item rest inductionHypothesis => simp [List.mapM_cons, inductionHypothesis]

end Reported

namespace ModuleLines

theorem ext {first second : ModuleLines} (includes : first.includes = second.includes)
    (unclassified : first.unclassified = second.unclassified) : first = second := by
  cases first
  cases second
  simp_all

@[simp]
theorem includes_concat (parts : List ModuleLines) :
    (concat parts).includes = parts.flatMap (·.includes) := by
  induction parts with
  | nil => rfl
  | cons part rest inductionHypothesis => simp [concat, ← inductionHypothesis]

@[simp]
theorem unclassified_concat (parts : List ModuleLines) :
    (concat parts).unclassified = parts.flatMap (·.unclassified) := by
  induction parts with
  | nil => rfl
  | cons part rest inductionHypothesis => simp [concat, ← inductionHypothesis]

theorem concat_append (first second : List ModuleLines) :
    concat (first ++ second) = concat first ++ concat second :=
  ext (by simp) (by simp)

theorem value_decodeWith (nom : Combinators) (options : DecodeOptions) (lines : Segment) :
    (decodeWith nom options lines).value =
      concat ((Include.chunks lines).map fun chunk =>
        (Include.decodeChunk nom options chunk).value) := by
  simp [decodeWith]

theorem diagnostics_decodeWith (nom : Combinators) (options : DecodeOptions) (lines : Segment) :
    (decodeWith nom options lines).diagnostics =
      (Include.chunks lines).flatMap fun chunk =>
        (Include.decodeChunk nom options chunk).diagnostics := by
  simp [decodeWith]

end ModuleLines

namespace Include

open Segment

/-- Whether a chunk ends the section. -/
abbrev IsTerminator (chunk : Segment) : Bool := chunk.startsWithRun 0 terminatorLength

/-- The chunks of a section that starts with whole chunks closed by a zero block: those of the
first part, and, unless a terminator starts in the first part, those of the rest. -/
theorem chunks_append_of_closed {first : List UInt8} (second : List UInt8) (offset : Nat)
    (aligned : chunkWidth ∣ first.length)
    (closed : first = [] ∨ List.replicate chunkWidth 0 <:+ first) :
    chunks ⟨first ++ second, offset⟩ =
      if (split chunkWidth 0 ⟨first, offset⟩).any IsTerminator then
        chunks ⟨first, offset⟩
      else
        chunks ⟨first, offset⟩ ++ chunks ⟨second, offset + first.length⟩ := by
  set pieces := split chunkWidth 0 ⟨first, offset⟩ with piecesEq
  have whole := split_append_of_closed second offset aligned closed
  have lastEmpty : pieces = pieces.dropLast ++ [⟨[], offset + first.length⟩] := by
    simpa using split_append_of_closed [] offset aligned closed
  have emptyOpen : IsTerminator ⟨[], offset + first.length⟩ = false := by
    simp [IsTerminator, startsWithRun, Segment.length, terminatorLength]
  have emptyPadding : isAll 0 ⟨[], offset + first.length⟩ = true := by simp [isAll]
  simp only [chunks]
  rw [whole, ← piecesEq]
  split
  case isTrue someTerminator =>
    obtain ⟨chunk, mem, terminator⟩ := List.any_eq_true.mp someTerminator
    have notAll : ¬∀ chunk ∈ pieces.dropLast, (!IsTerminator chunk) = true := by
      intro all
      rw [lastEmpty, List.mem_append, List.mem_singleton] at mem
      rcases mem with early | rfl
      · have opens := all chunk early
        simp [terminator] at opens
      · simp [emptyOpen] at terminator
    have stops : ∀ rest, (pieces.dropLast ++ rest).takeWhile (fun c => !IsTerminator c) =
        pieces.dropLast.takeWhile (fun c => !IsTerminator c) := by
      intro rest
      rw [List.takeWhile_append, if_neg]
      intro sameLength
      exact notAll (List.takeWhile_eq_self_iff.mp
        ((List.takeWhile_prefix _).eq_of_length sameLength))
    conv => rhs; rw [lastEmpty]
    rw [stops, stops]
  case isFalse noTerminator =>
    have allOpen : ∀ chunk ∈ pieces, (!IsTerminator chunk) = true := by
      intro chunk mem
      simpa using fun terminator => noTerminator (List.any_eq_true.mpr ⟨chunk, mem, terminator⟩)
    have allOpenEarly : ∀ chunk ∈ pieces.dropLast, (!IsTerminator chunk) = true :=
      fun chunk mem => allOpen chunk (List.dropLast_subset _ mem)
    rw [List.takeWhile_append_of_pos allOpenEarly, List.takeWhile_eq_self_iff.mpr allOpen,
      List.filter_append]
    conv => rhs; rw [lastEmpty]
    simp [emptyPadding]

/-- A section cut into pieces that are neither terminators nor padding, and then a terminator,
has exactly those pieces as its chunks. -/
theorem chunks_eq_of_split_eq {lines last : Segment} {pieces more : List Segment}
    (splitEq : split chunkWidth 0 lines = pieces ++ last :: more)
    (opens : ∀ chunk ∈ pieces, IsTerminator chunk = false)
    (holdsRecords : ∀ chunk ∈ pieces, isAll 0 chunk = false)
    (terminates : IsTerminator last = true) :
    chunks lines = pieces := by
  rw [chunks, splitEq, List.takeWhile_append_of_pos fun chunk mem => by simp [opens chunk mem],
    List.takeWhile_cons_of_neg (by simp [terminates]), List.append_nil,
    List.filter_eq_self.mpr fun chunk mem => by simp [holdsRecords chunk mem]]

end Include

/-- Decoding a module-line section is a homomorphism over closed chunk boundaries, whatever
combinators read the records. Let the section start with bytes of whole chunks that are empty or
end in eight zero bytes. If a terminator starts on one of their chunks, what follows them is
never read. Otherwise the section decodes to the first part decoded and then the rest decoded at
its own offset. -/
theorem ModuleLines.decode_append_of_closed (nom : Combinators) (options : DecodeOptions)
    (offset : Nat) {first : List UInt8} (second : List UInt8)
    (aligned : Include.chunkWidth ∣ first.length)
    (closed : first = [] ∨ List.replicate Include.chunkWidth 0 <:+ first) :
    decodeWith nom options ⟨first ++ second, offset⟩ =
      if (Segment.split Include.chunkWidth 0 ⟨first, offset⟩).any
          (Segment.startsWithRun 0 Include.terminatorLength) then
        decodeWith nom options ⟨first, offset⟩
      else
        let head := decodeWith nom options ⟨first, offset⟩
        let tail := decodeWith nom options ⟨second, offset + first.length⟩
        ⟨head.value ++ tail.value, head.diagnostics ++ tail.diagnostics⟩ := by
  have pieces := Include.chunks_append_of_closed second offset aligned closed
  split
  case isTrue someTerminator =>
    rw [if_pos someTerminator] at pieces
    exact Reported.ext (by rw [value_decodeWith, value_decodeWith, pieces])
      (by rw [diagnostics_decodeWith, diagnostics_decodeWith, pieces])
  case isFalse noTerminator =>
    rw [if_neg noTerminator] at pieces
    exact Reported.ext (by simp only [value_decodeWith, pieces, List.map_append, concat_append])
      (by simp only [diagnostics_decodeWith, pieces, List.flatMap_append])

/-- A section whose first chunk holds a truncated root, followed by a terminator and a trailer,
read with the standard combinators: the first chunk is a closed part, so the law applies at its
boundary. -/
theorem ModuleLines.decode_append_past_one_chunk :
    Include.chunkWidth ∣ [7, 0, 0, 0, 0, 0, 0, 0, 0, 0, 0, 0, 0, 0, 0, 0].length ∧
      ([7, 0, 0, 0, 0, 0, 0, 0, 0, 0, 0, 0, 0, 0, 0, 0] = [] ∨
        List.replicate Include.chunkWidth 0 <:+ [7, 0, 0, 0, 0, 0, 0, 0, 0, 0, 0, 0, 0, 0, 0, 0]) ∧
      decodeWith Combinators.standard {}
          ⟨[7, 0, 0, 0, 0, 0, 0, 0, 0, 0, 0, 0, 0, 0, 0, 0] ++ [0, 0, 0, 0, 1], 16⟩ =
        if (Segment.split Include.chunkWidth 0
            ⟨[7, 0, 0, 0, 0, 0, 0, 0, 0, 0, 0, 0, 0, 0, 0, 0], 16⟩).any
            (Segment.startsWithRun 0 Include.terminatorLength) then
          decodeWith Combinators.standard {} ⟨[7, 0, 0, 0, 0, 0, 0, 0, 0, 0, 0, 0, 0, 0, 0, 0], 16⟩
        else
          let head :=
            decodeWith Combinators.standard {} ⟨[7, 0, 0, 0, 0, 0, 0, 0, 0, 0, 0, 0, 0, 0, 0, 0], 16⟩
          let tail := decodeWith Combinators.standard {} ⟨[0, 0, 0, 0, 1], 16 + 16⟩
          ⟨head.value ++ tail.value, head.diagnostics ++ tail.diagnostics⟩ :=
  ⟨by decide, .inr ⟨[7, 0, 0, 0, 0, 0, 0, 0], rfl⟩,
    decode_append_of_closed Combinators.standard {} 16 [0, 0, 0, 0, 1] (by decide)
      (.inr ⟨[7, 0, 0, 0, 0, 0, 0, 0], rfl⟩)⟩

end ListingMap
