import ListingMap.DebugTables
import ListingMap.Proofs.FieldLayout
import ListingMap.Proofs.FileMapStrides

/-!
# Artifacts read back as written

Decoding undoes the artifact writer. Take an artifact with file-map records, none of them all
zero, chunks whose records are `Include.ChunkSpec.Readable`, and any trailer. The stored bytes
decode to exactly those file-map records and the include records the chunks describe, with
nothing unclassified and no diagnostic (`Artifact.decode_stored`).

The decoder cuts the artifact three times: after a 16-aligned block of zeros, into chunks after
8-aligned zero blocks, and into sub-records after 4-aligned zero blocks. The proof shows that
each cut falls exactly where the writer put a boundary.

* A stored field is its bytes reversed, then zero padding. A writer's field opens with a
  nonzero byte and holds at most three zeros (`Include.Storable`), so no run of four zeros lies
  before its padding. A stored field is therefore a closed piece of the 4-split
  (`Include.storeField_closedPiece`).
* Every 4-block of a stored field but the last holds a nonzero byte, and the next field starts
  with such a block. So no two zero 4-blocks stand side by side before a chunk's padding, and
  no 8-block of a chunk is zero before its last (`Include.storeChunk_closedPiece`).
* A file-map record that is not all zero is no zero 16-block, so the table with its closing
  block is a closed piece of the 16-split.
-/

namespace ListingMap

namespace Include

open Segment

/-! ## Runs of zeros -/

theorem replicate_infix_append_cons {count : Nat} {sentinel byte : UInt8}
    {before after : List UInt8} (differs : byte ≠ sentinel)
    (run : List.replicate count sentinel <:+: before ++ byte :: after) :
    List.replicate count sentinel <:+: before ∨ List.replicate count sentinel <:+: after := by
  rcases List.infix_append_iff.mp run with inBefore | inAfter | ⟨front, back, split, tail, head⟩
  · exact .inl inBefore
  · rcases List.infix_cons_iff.mp inAfter with opening | inRest
    · cases count with
      | zero => exact .inl (by simp)
      | succ count =>
          rw [List.replicate_succ, List.cons_prefix_cons] at opening
          exact absurd opening.1.symm differs
    · exact .inr inRest
  · cases back with
    | nil =>
        rw [List.append_nil] at split
        exact .inl (split ▸ tail.isInfix)
    | cons first rest =>
        have firstIsByte : first = byte := (List.cons_prefix_cons.mp head).1
        have firstIsSentinel : first = sentinel :=
          List.eq_of_mem_replicate (split ▸ List.mem_append_right front (List.mem_cons_self ..))
        exact absurd (firstIsByte.symm.trans firstIsSentinel) differs

theorem infix_of_mem_blocks {width : Nat} {bytes block : List UInt8}
    (mem : block ∈ blocks width bytes) : block <:+: bytes := by
  rw [← join_blocks width bytes]
  exact List.infix_of_mem_flatten mem

/-! ## Stored fields -/

/-- The zeros that bring a stored field to a multiple of four bytes. -/
def fieldPadding (field : List UInt8) : Nat :=
  (fieldWidth - field.length % fieldWidth) % fieldWidth

theorem storeField_eq (field : List UInt8) :
    storeField field =
      (field.reverse ++ List.replicate (fieldPadding field) 0) ++ List.replicate fieldWidth 0 := by
  rw [storeField, List.append_assoc, List.replicate_append_replicate, fieldPadding]

theorem fieldWidth_dvd_length_reverse_append (field : List UInt8) :
    fieldWidth ∣ (field.reverse ++ List.replicate (fieldPadding field) 0).length := by
  simp only [List.length_append, List.length_reverse, List.length_replicate, fieldPadding,
    fieldWidth]
  omega

/-- No block before a stored field's padding is zero: such a block would be a run of four
zeros inside the field, or one crossing its first byte. -/
theorem closes_storedBody_eq_false {field : List UInt8} (storable : Storable field) :
    ∀ block ∈ blocks fieldWidth (field.reverse ++ List.replicate (fieldPadding field) 0),
      closes fieldWidth 0 block = false := by
  intro block mem
  obtain ⟨first, rest, rfl, firstNonzero⟩ := storable.opens
  rw [Bool.eq_false_iff]
  intro zeroBlock
  rw [closes_iff] at zeroBlock
  subst zeroBlock
  have inside := infix_of_mem_blocks mem
  rw [List.reverse_cons, List.append_assoc, List.singleton_append] at inside
  rcases replicate_infix_append_cons firstNonzero inside with inRest | inPadding
  · have counted := inRest.count_le 0
    have fewZeros := storable.fewZeros
    simp only [List.count_replicate_self, List.count_reverse] at counted
    simp [firstNonzero, fieldWidth] at counted fewZeros
    omega
  · have short := inPadding.length_le
    simp only [List.length_replicate, fieldPadding, fieldWidth] at short
    omega

theorem storeField_closedPiece {field : List UInt8} (storable : Storable field) :
    ClosedPiece fieldWidth 0 (storeField field) :=
  ⟨_, storeField_eq field, fieldWidth_dvd_length_reverse_append field,
    closes_storedBody_eq_false storable⟩

theorem normalize_storeField {field : List UInt8} (storable : Storable field) :
    normalize (storeField field) = field := by
  obtain ⟨first, rest, rfl, firstNonzero⟩ := storable.opens
  simp [normalize, storeField, firstNonzero]

/-- The 4-blocks of a stored field: some blocks that each hold a nonzero byte, then one zero
block. -/
theorem blocks_storeField {field : List UInt8} (storable : Storable field) :
    ∃ opening, blocks fieldWidth (storeField field) =
        opening ++ [List.replicate fieldWidth 0] ∧ opening ≠ [] ∧
      ∀ block ∈ opening, closes fieldWidth 0 block = false := by
  refine ⟨blocks fieldWidth (field.reverse ++ List.replicate (fieldPadding field) 0), ?_, ?_,
    closes_storedBody_eq_false storable⟩
  · have zeroBlock : blocks fieldWidth (List.replicate fieldWidth 0) =
        [List.replicate fieldWidth 0] :=
      blocks_of_length_le (by simp [fieldWidth]) (by simp)
    rw [storeField_eq, blocks_append (by decide) _ (fieldWidth_dvd_length_reverse_append field),
      zeroBlock]
  · obtain ⟨first, rest, rfl, -⟩ := storable.opens
    exact blocks_ne_nil (by simp)

theorem fieldWidth_dvd_length_storeField (field : List UInt8) :
    fieldWidth ∣ (storeField field).length := by
  rw [storeField_eq, List.length_append]
  exact Nat.dvd_add (fieldWidth_dvd_length_reverse_append field) (by simp)

theorem fieldWidth_dvd_length_flatMap (fields : List (List UInt8)) :
    fieldWidth ∣ (fields.flatMap storeField).length := by
  induction fields with
  | nil => simp
  | cons field rest inductionHypothesis =>
      rw [List.flatMap_cons, List.length_append]
      exact Nat.dvd_add (fieldWidth_dvd_length_storeField field) inductionHypothesis

theorem take_storeField_ne {field : List UInt8} (storable : Storable field) (rest : List UInt8) :
    (storeField field ++ rest).take fieldWidth ≠ List.replicate fieldWidth 0 := by
  obtain ⟨opening, blocksEq, nonempty, opens⟩ := blocks_storeField storable
  obtain ⟨first, more, rfl⟩ := List.exists_cons_of_ne_nil nonempty
  have long : fieldWidth ≤ (storeField field).length := by
    rw [storeField_eq, List.length_append, List.length_replicate]
    omega
  obtain ⟨byte, stored, storedEq⟩ := List.exists_cons_of_ne_nil
    (List.ne_nil_of_length_pos (Nat.lt_of_lt_of_le (by decide) long))
  have firstBlock : first = (storeField field).take fieldWidth := by
    rw [storedEq, blocks_cons] at blocksEq
    rw [storedEq, (List.cons.inj blocksEq).1.symm]
    simp [fieldWidth]
  rw [List.take_append_of_le_length long, ← firstBlock]
  intro zero
  have := opens first (by simp)
  rw [zero] at this
  simp [closes, fieldWidth] at this

/-! ## Stored chunks -/

theorem trailingZeros_append_storeField (before : List UInt8) {field : List UInt8}
    (storable : Storable field) :
    trailingZeros (before ++ storeField field) = fieldPadding field + fieldWidth := by
  obtain ⟨first, rest, rfl, firstNonzero⟩ := storable.opens
  rw [storeField_eq]
  simp [trailingZeros, firstNonzero]

theorem storeChunk_eq {fields : List (List UInt8)} (nonempty : fields ≠ [])
    (storable : ∀ field ∈ fields, Storable field) :
    storeChunk fields = fields.flatMap storeField ++
      List.replicate (chunkWidth - (fields.flatMap storeField).length % chunkWidth) 0 := by
  have aligned := fieldWidth_dvd_length_flatMap fields
  have lastField := storable _ (List.getLast_mem nonempty)
  have zeros : trailingZeros (fields.flatMap storeField) = fieldPadding (fields.getLast nonempty) +
      fieldWidth := by
    conv => lhs; rw [← List.dropLast_append_getLast nonempty, List.flatMap_append]
    simpa using trailingZeros_append_storeField _ lastField
  simp only [storeChunk, chunkPadding, zeros]
  have small : fieldPadding (fields.getLast nonempty) < fieldWidth := by
    simp only [fieldPadding, fieldWidth]
    omega
  simp only [fieldWidth, chunkWidth] at aligned small ⊢
  congr 2
  omega

theorem blocks_flatMap_storeField (fields : List (List UInt8)) :
    blocks fieldWidth (fields.flatMap storeField) =
      fields.flatMap fun field => blocks fieldWidth (storeField field) := by
  induction fields with
  | nil => simp
  | cons field rest inductionHypothesis =>
      rw [List.flatMap_cons, blocks_append (by decide) _ (fieldWidth_dvd_length_storeField field),
        inductionHypothesis, List.flatMap_cons]

theorem isChain_apart_append {opening rest : List (List UInt8)}
    (opens : ∀ block ∈ opening, closes fieldWidth 0 block = false)
    (chain : rest.IsChain (Apart fieldWidth 0)) :
    (opening ++ rest).IsChain (Apart fieldWidth 0) := by
  induction opening with
  | nil => exact chain
  | cons block more inductionHypothesis =>
      rw [List.cons_append, List.isChain_cons]
      refine ⟨fun next _ both => ?_, inductionHypothesis fun other mem => opens other (by simp [mem])⟩
      rw [opens block (by simp)] at both
      exact Bool.false_ne_true both.1

/-- Among the 4-blocks of a chunk's stored fields no two zero blocks stand side by side, and
the first holds a nonzero byte. -/
theorem isChain_apart_blocks {fields : List (List UInt8)}
    (storable : ∀ field ∈ fields, Storable field) :
    (fields.flatMap fun field => blocks fieldWidth (storeField field)).IsChain
        (Apart fieldWidth 0) ∧
      ∀ block ∈ (fields.flatMap fun field => blocks fieldWidth (storeField field)).head?,
        closes fieldWidth 0 block = false := by
  induction fields with
  | nil => simp
  | cons field rest inductionHypothesis =>
      obtain ⟨restChain, restHead⟩ :=
        inductionHypothesis fun other mem => storable other (by simp [mem])
      obtain ⟨opening, blocksEq, nonempty, opens⟩ := blocks_storeField (storable field (by simp))
      obtain ⟨first, more, rfl⟩ := List.exists_cons_of_ne_nil nonempty
      rw [List.flatMap_cons, blocksEq, List.append_assoc, List.singleton_append]
      refine ⟨isChain_apart_append opens (List.isChain_cons.mpr ⟨?_, restChain⟩), ?_⟩
      · intro next nextHead both
        rw [restHead next nextHead] at both
        exact Bool.false_ne_true both.2
      · simpa using opens first (by simp)

theorem exists_blocks_flatMap_eq {fields : List (List UInt8)} (nonempty : fields ≠ [])
    (storable : ∀ field ∈ fields, Storable field) :
    ∃ init, (fields.flatMap fun field => blocks fieldWidth (storeField field)) =
      init ++ [List.replicate fieldWidth 0] := by
  obtain ⟨opening, blocksEq, -, -⟩ := blocks_storeField (storable _ (List.getLast_mem nonempty))
  refine ⟨(fields.dropLast.flatMap fun field => blocks fieldWidth (storeField field)) ++ opening,
    ?_⟩
  conv => lhs; rw [← List.dropLast_append_getLast nonempty]
  rw [List.flatMap_append, List.flatMap_singleton, blocksEq, List.append_assoc]

/-- A chunk of storable fields is a closed piece of the chunk split: its one zero 8-block is
its last. -/
theorem storeChunk_closedPiece {fields : List (List UInt8)} (nonempty : fields ≠ [])
    (storable : ∀ field ∈ fields, Storable field) :
    ClosedPiece chunkWidth 0 (storeChunk fields) := by
  have aligned := fieldWidth_dvd_length_flatMap fields
  have joined : (fields.flatMap fun field => blocks fieldWidth (storeField field)).flatten =
      fields.flatMap storeField := by
    rw [← blocks_flatMap_storeField, join_blocks]
  have whole : ∀ block ∈ fields.flatMap (fun field => blocks fieldWidth (storeField field)),
      block.length = fieldWidth := by
    rw [← blocks_flatMap_storeField]
    exact fun block mem => length_of_mem_blocks (by decide) aligned mem
  obtain ⟨chain, -⟩ := isChain_apart_blocks storable
  have doubled : chunkWidth = 2 * fieldWidth := rfl
  rw [storeChunk_eq nonempty storable]
  by_cases evenly : (fields.flatMap storeField).length % chunkWidth = 0
  · refine ⟨fields.flatMap storeField, by rw [evenly]; rfl, Nat.dvd_of_mod_eq_zero evenly, ?_⟩
    rw [doubled, ← joined]
    exact closes_two_mul_eq_false (by decide) _ whole chain
  · have half : (fields.flatMap storeField).length % chunkWidth = fieldWidth := by
      simp only [fieldWidth, chunkWidth] at aligned evenly ⊢
      omega
    obtain ⟨init, initEq⟩ := exists_blocks_flatMap_eq nonempty storable
    have bytesEq : fields.flatMap storeField = init.flatten ++ List.replicate fieldWidth 0 := by
      rw [← joined, initEq, List.flatten_append, List.flatten_singleton]
    refine ⟨init.flatten, ?_, ?_, ?_⟩
    · rw [half, bytesEq, List.append_assoc, List.replicate_append_replicate]
      rfl
    · have := congrArg List.length bytesEq
      simp only [List.length_append, List.length_replicate] at this
      simp only [fieldWidth, chunkWidth] at half this ⊢
      omega
    · rw [doubled]
      exact closes_two_mul_eq_false (by decide) init
        (fun block mem => whole block (by rw [initEq]; exact List.mem_append_left _ mem))
        (initEq ▸ chain).left_of_append

theorem map_bytes_fields (chunk : Segment) :
    (fields chunk).map (·.bytes) =
      ((chunk.split fieldWidth 0).map fun stored => normalize stored.bytes).filter (· ≠ []) := by
  rw [fields]
  induction chunk.split fieldWidth 0 with
  | nil => rfl
  | cons stored more inductionHypothesis =>
      rw [List.filterMap_cons, List.map_cons, List.filter_cons]
      cases normalize stored.bytes with
      | nil => simpa using inductionHypothesis
      | cons byte rest => simpa using inductionHypothesis

theorem map_bytes_fields_storeChunk {fields : List (List UInt8)} (nonempty : fields ≠ [])
    (storable : ∀ field ∈ fields, Storable field) (offset : Nat) :
    (Include.fields ⟨storeChunk fields, offset⟩).map (·.bytes) = fields := by
  have aligned := fieldWidth_dvd_length_flatMap fields
  have padding : List.replicate
      (chunkWidth - (fields.flatMap storeField).length % chunkWidth) (0 : UInt8) =
      (List.replicate ((chunkWidth - (fields.flatMap storeField).length % chunkWidth) /
        fieldWidth) (List.replicate fieldWidth 0)).flatten := by
    rw [List.flatten_replicate_replicate]
    congr 1
    simp only [fieldWidth, chunkWidth] at aligned ⊢
    omega
  have pieces : storeChunk fields =
      (fields.map storeField ++ List.replicate ((chunkWidth -
        (fields.flatMap storeField).length % chunkWidth) / fieldWidth)
          (List.replicate fieldWidth 0)).flatten ++ [] := by
    rw [storeChunk_eq nonempty storable, padding, List.flatten_append, List.flatMap_def,
      List.append_nil]
  have closed : ∀ piece ∈ fields.map storeField ++ List.replicate ((chunkWidth -
      (fields.flatMap storeField).length % chunkWidth) / fieldWidth) (List.replicate fieldWidth 0),
      ClosedPiece fieldWidth 0 piece := by
    intro piece mem
    rcases List.mem_append.mp mem with stored | zero
    · obtain ⟨field, fieldMem, rfl⟩ := List.mem_map.mp stored
      exact storeField_closedPiece (storable field fieldMem)
    · rw [List.eq_of_mem_replicate zero]
      exact ⟨[], by simp, by simp, by simp⟩
  have restored : fields.map (normalize ∘ storeField) = fields :=
    (List.map_congr_left fun field mem => normalize_storeField (storable field mem)).trans
      (List.map_id' fields)
  have notEmpty : ∀ field ∈ fields, field ≠ [] := by
    intro field mem empty
    obtain ⟨first, rest, equal, -⟩ := (storable field mem).opens
    simp [empty] at equal
  have throughLayout : ∀ (pieces : List (List UInt8)) (start : Nat),
      (layout start pieces).map (fun stored => normalize stored.bytes) = pieces.map normalize :=
    fun pieces start => by
      have bytesThrough := congrArg (List.map normalize) (map_bytes_layout start pieces)
      rwa [List.map_map] at bytesThrough
  rw [map_bytes_fields, pieces, split_flatten_append (by decide) _ [] offset closed, split_nil,
    List.map_append, throughLayout, List.map_append, List.map_map, restored, List.filter_append,
    List.filter_append]
  simpa [normalize] using notEmpty

theorem mapM_decodeChild {nom : Combinators} (lawful : nom.Lawful) (options : DecodeOptions)
    (root : UInt32) :
    ∀ {children : List ChildSpec} {stored : List Segment},
      (∀ child ∈ children, child.Readable options) →
      stored.map (·.bytes) = children.map ChildSpec.field →
      stored.mapM (decodeChild nom options root) =
        pure (children.map fun child => { includes := [child.record root] })
  | [], [], _, _ => rfl
  | [], _ :: _, _, equal => by simp at equal
  | _ :: _, [], _, equal => by simp at equal
  | child :: more, ⟨bytes, offset⟩ :: stored, readable, equal => by
      rw [List.map_cons, List.map_cons, List.cons.injEq] at equal
      obtain ⟨rfl, restEqual⟩ := equal
      have restDecoded := mapM_decodeChild lawful options root
        (fun later mem => readable later (List.mem_cons_of_mem _ mem)) restEqual
      rw [List.mapM_cons,
        decodeChild_field lawful options root (readable child List.mem_cons_self),
        restDecoded]
      rfl

/-- A stored chunk decodes to its records, with nothing to report. -/
theorem decodeChunk_storeChunk {nom : Combinators} (lawful : nom.Lawful)
    (options : DecodeOptions) {chunk : ChunkSpec} (readable : chunk.Readable options)
    (offset : Nat) :
    decodeChunk nom options ⟨storeChunk chunk.fields, offset⟩ =
      ⟨{ includes := chunk.records }, []⟩ := by
  have readBack : (fields ⟨storeChunk chunk.fields, offset⟩).map (·.bytes) = chunk.fields :=
    map_bytes_fields_storeChunk (by simp [ChunkSpec.fields]) (chunk.storable_fields readable) offset
  cases stored : fields ⟨storeChunk chunk.fields, offset⟩ with
  | nil =>
      rw [stored] at readBack
      simp [ChunkSpec.fields] at readBack
  | cons root children =>
      rw [stored, List.map_cons, ChunkSpec.fields, List.cons.injEq] at readBack
      obtain ⟨rootBytes, childBytes⟩ := readBack
      have long : ¬root.bytes.length < rootMinimum := by
        have named := List.length_pos_of_ne_nil (nameBytes_ne_nil chunk.name)
        obtain ⟨a, b, c, d, equal⟩ := words_cases chunk.words
        simp only [rootBytes, rootField, equal, wordBytes, List.length_cons, List.length_append,
          List.length_flatMap, Vector.toList_mk, rootMinimum, rootNameStart]
        simp
        omega
      have rootRead : rootAt options root.bytes =
          pure ⟨0, chunk.debugNum.toUInt32, chunk.words, chunk.name, .root⟩ := by
        rw [rootBytes]
        exact rootAt_rootField options readable.1
      rw [decodeChunk_of_fields_eq_cons lawful options stored long, rootRead, pure_bind,
        mapM_decodeChild lawful options _ readable.2 childBytes, pure_bind]
      apply Reported.ext
      · apply ModuleLines.ext
        · simp only [Reported.value_pure, ModuleLines.includes_append,
            ModuleLines.includes_concat, ChunkSpec.records, List.flatMap_map,
            List.singleton_append, ← List.map_eq_flatMap]
        · simp
      · rfl

/-! ## The module-line section -/

/-- Among the first four bytes of a stored chunk is one that is not zero: they belong to its
first stored field. -/
theorem exists_ne_zero_take_storeChunk {fields : List (List UInt8)} (nonempty : fields ≠ [])
    (storable : ∀ field ∈ fields, Storable field) :
    ∃ byte ∈ (storeChunk fields).take terminatorLength, byte ≠ 0 := by
  obtain ⟨first, more, rfl⟩ := List.exists_cons_of_ne_nil nonempty
  obtain ⟨rest, split⟩ : ∃ rest, storeChunk (first :: more) = storeField first ++ rest :=
    ⟨_, by rw [storeChunk_eq nonempty storable, List.flatMap_cons, List.append_assoc]⟩
  have long : terminatorLength ≤ (storeChunk (first :: more)).length := by
    rw [split, storeField_eq]
    simp only [List.length_append, List.length_replicate, terminatorLength, fieldWidth]
    omega
  by_contra someNonzero
  refine take_storeField_ne (storable first List.mem_cons_self) rest ?_
  rw [← split]
  refine List.eq_replicate_iff.mpr ⟨?_, fun byte mem => ?_⟩
  · rw [List.length_take]
    exact Nat.min_eq_left long
  · by_contra nonzero
    exact someNonzero ⟨byte, mem, nonzero⟩

theorem isTerminator_storeChunk {fields : List (List UInt8)} (nonempty : fields ≠ [])
    (storable : ∀ field ∈ fields, Storable field) (offset : Nat) :
    IsTerminator ⟨storeChunk fields, offset⟩ = false := by
  obtain ⟨byte, mem, nonzero⟩ := exists_ne_zero_take_storeChunk nonempty storable
  simp only [IsTerminator, startsWithRun, Bool.and_eq_false_iff]
  exact .inr (List.all_eq_false.mpr ⟨byte, mem, by simpa using nonzero⟩)

theorem isAll_storeChunk {fields : List (List UInt8)} (nonempty : fields ≠ [])
    (storable : ∀ field ∈ fields, Storable field) (offset : Nat) :
    isAll 0 ⟨storeChunk fields, offset⟩ = false := by
  obtain ⟨byte, mem, nonzero⟩ := exists_ne_zero_take_storeChunk nonempty storable
  exact List.all_eq_false.mpr ⟨byte, List.mem_of_mem_take mem, by simpa using nonzero⟩

/-- Stored chunks followed by a terminator are read as exactly those chunks, one after the
other; the terminator ends the section, so nothing of the trailer is read. -/
theorem chunks_storedSection {chunkFields : List (List (List UInt8))}
    (nonempty : ∀ fields ∈ chunkFields, fields ≠ [])
    (storable : ∀ fields ∈ chunkFields, ∀ field ∈ fields, Storable field)
    (trailer : List UInt8) (offset : Nat) :
    chunks ⟨chunkFields.flatMap storeChunk ++ (List.replicate terminatorLength 0 ++ trailer),
      offset⟩ = layout offset (chunkFields.map storeChunk) := by
  have closed : ∀ piece ∈ chunkFields.map storeChunk, ClosedPiece chunkWidth 0 piece := by
    intro piece mem
    obtain ⟨fields, fieldsMem, rfl⟩ := List.mem_map.mp mem
    exact storeChunk_closedPiece (nonempty fields fieldsMem) (storable fields fieldsMem)
  have stored : ∀ chunk ∈ layout offset (chunkFields.map storeChunk),
      ∃ fields ∈ chunkFields, chunk = ⟨storeChunk fields, chunk.offset⟩ := by
    intro chunk mem
    obtain ⟨fields, fieldsMem, equal⟩ := List.mem_map.mp (bytes_mem_of_mem_layout mem)
    exact ⟨fields, fieldsMem, by rw [equal]⟩
  obtain ⟨last, more, lastSplit, lastPrefix⟩ : ∃ last more,
      split chunkWidth 0 ⟨List.replicate terminatorLength 0 ++ trailer,
        offset + (chunkFields.map storeChunk).flatten.length⟩ = last :: more ∧
      (List.replicate terminatorLength 0 ++ trailer).take chunkWidth <+: last.bytes :=
    exists_split_eq_cons (by decide) _ _
  have terminates : IsTerminator last = true := by
    have zeros : List.replicate terminatorLength 0 <+: last.bytes := by
      refine List.IsPrefix.trans ?_ lastPrefix
      rw [List.take_append, List.take_of_length_le (by simp [terminatorLength, chunkWidth])]
      exact List.prefix_append _ _
    obtain ⟨tail, equal⟩ := zeros
    simp [IsTerminator, startsWithRun, Segment.length, ← equal, terminatorLength]
  have splitEq : split chunkWidth 0 ⟨(chunkFields.map storeChunk).flatten ++
      (List.replicate terminatorLength 0 ++ trailer), offset⟩ =
        layout offset (chunkFields.map storeChunk) ++ last :: more := by
    rw [split_flatten_append (by decide) _ _ offset closed, lastSplit]
  rw [List.flatMap_def]
  refine chunks_eq_of_split_eq splitEq (fun chunk mem => ?_) (fun chunk mem => ?_) terminates
  · obtain ⟨fields, fieldsMem, equal⟩ := stored chunk mem
    rw [equal]
    exact isTerminator_storeChunk (nonempty fields fieldsMem) (storable fields fieldsMem) _
  · obtain ⟨fields, fieldsMem, equal⟩ := stored chunk mem
    rw [equal]
    exact isAll_storeChunk (nonempty fields fieldsMem) (storable fields fieldsMem) _

theorem mapM_decodeChunk_layout {nom : Combinators} (lawful : nom.Lawful)
    (options : DecodeOptions) :
    ∀ (specs : List ChunkSpec) (offset : Nat), (∀ chunk ∈ specs, chunk.Readable options) →
      (layout offset ((specs.map ChunkSpec.fields).map storeChunk)).mapM
          (decodeChunk nom options) =
        pure (specs.map fun chunk => { includes := chunk.records })
  | [], _, _ => rfl
  | chunk :: more, offset, readable => by
      rw [List.map_cons, List.map_cons, layout, List.mapM_cons,
        decodeChunk_storeChunk lawful options (readable chunk List.mem_cons_self),
        mapM_decodeChunk_layout lawful options more _
          (fun later mem => readable later (List.mem_cons_of_mem _ mem))]
      rfl

/-- A module-line section of stored chunks, a terminator and any trailer decodes to the
records the chunks describe, with nothing unclassified and nothing to report. -/
theorem decode_storedSection {nom : Combinators} (lawful : nom.Lawful) (options : DecodeOptions)
    {specs : List ChunkSpec} (readable : ∀ chunk ∈ specs, chunk.Readable options)
    (trailer : List UInt8) (offset : Nat) :
    ModuleLines.decodeWith nom options ⟨(specs.map ChunkSpec.fields).flatMap storeChunk ++
        (List.replicate terminatorLength 0 ++ trailer), offset⟩ =
      pure { includes := specs.flatMap ChunkSpec.records } := by
  have nonempty : ∀ fields ∈ specs.map ChunkSpec.fields, fields ≠ [] := by
    intro fields mem
    obtain ⟨chunk, -, rfl⟩ := List.mem_map.mp mem
    simp [ChunkSpec.fields]
  have storable : ∀ fields ∈ specs.map ChunkSpec.fields, ∀ field ∈ fields, Storable field := by
    intro fields mem
    obtain ⟨chunk, chunkMem, rfl⟩ := List.mem_map.mp mem
    exact chunk.storable_fields (readable chunk chunkMem)
  rw [ModuleLines.decodeWith, chunks_storedSection nonempty storable,
    mapM_decodeChunk_layout lawful options specs offset readable, pure_bind]
  congr 1
  apply ModuleLines.ext
  · simp [List.flatMap_map]
  · simp [List.flatMap_map]

end Include

/-! ## The file map -/

namespace FileMapRecord

@[simp]
theorem ofStride_bytes (record : FileMapRecord) : ofStride record.bytes = record :=
  ofStride_bytes_of_toUInt8 (by simp)

@[simp]
theorem length_bytes (record : FileMapRecord) : record.bytes.length = size := rfl

theorem bytes_ne_zero {record : FileMapRecord} (notBlank : record ≠ ⟨0, 0, 0, 0⟩) :
    record.bytes ≠ List.replicate size 0 := by
  intro zero
  apply notBlank
  rw [← ofStride_bytes record, zero]
  decide

end FileMapRecord

namespace FileMap

/-- A table reads back as the records it stores. -/
theorem decodeWith_encode {nom : Combinators} (lawful : nom.Lawful)
    (records : List FileMapRecord) :
    decodeWith nom (encode records) = records := by
  rw [decodeWith_eq_readStrides lawful]
  have written := readStrides_strides_append
    (records.map fun record => (record, record.debugNum.toUInt32)) (by simp)
    (show ([] : List UInt8).length < FileMapRecord.size by decide)
  have kept :
      (records.map fun record => (record, record.debugNum.toUInt32)).map (·.1) = records := by
    simp [Function.comp_def]
  rw [kept, List.append_nil, List.flatMap_map] at written
  exact written

/-- A table of records that are not blank, with the zero block after it, is a closed piece of
the cut into 16-byte blocks. -/
theorem encode_closedPiece {records : List FileMapRecord}
    (notBlank : ∀ record ∈ records, record ≠ ⟨0, 0, 0, 0⟩) :
    Segment.ClosedPiece Sections.boundaryWidth 0
      (encode records ++ List.replicate Sections.boundaryWidth 0) := by
  have strides : ∀ stride ∈ records.map FileMapRecord.bytes,
      stride.length = Sections.boundaryWidth := by
    intro stride mem
    obtain ⟨record, -, rfl⟩ := List.mem_map.mp mem
    rfl
  refine ⟨encode records, rfl, ?_, ?_⟩
  · rw [encode, List.length_flatMap]
    simp only [FileMapRecord.length_bytes, List.map_const', List.sum_replicate_nat]
    exact Nat.dvd_mul_left _ _
  · intro block mem
    rw [encode, List.flatMap_def, Segment.blocks_flatten (by decide) _ strides] at mem
    obtain ⟨record, recordMem, rfl⟩ := List.mem_map.mp mem
    exact Bool.eq_false_iff.mpr fun closes =>
      FileMapRecord.bytes_ne_zero (notBlank record recordMem) ((Segment.closes_iff _ _ _).mp closes)

end FileMap

/-- An artifact that opens with a table of records that are not blank, the zero block after
it and at least four more bytes has its file map and module-line section cut at that block. -/
theorem Sections.locate_encode {records : List FileMapRecord}
    (notBlank : ∀ record ∈ records, record ≠ ⟨0, 0, 0, 0⟩) {rest : List UInt8}
    (long : 4 ≤ rest.length) :
    locate ⟨FileMap.encode records ++ List.replicate boundaryWidth 0 ++ rest, 0⟩ =
      .ok ⟨⟨FileMap.encode records, 0⟩,
        ⟨rest, (FileMap.encode records).length + boundaryWidth⟩⟩ := by
  have splitEq := Segment.split_closedPiece_append (by decide) rest 0
    (FileMap.encode_closedPiece notBlank)
  obtain ⟨next, more, nextEq, -⟩ : ∃ next more,
      Segment.split boundaryWidth 0
        ⟨rest, 0 + (FileMap.encode records ++ List.replicate boundaryWidth 0).length⟩ =
          next :: more ∧ rest.take boundaryWidth <+: next.bytes :=
    Segment.exists_split_eq_cons (by decide) _ _
  have notShort : ¬(⟨FileMap.encode records ++ List.replicate boundaryWidth 0 ++ rest, 0⟩ :
      Segment).length < minimumLength := by
    show ¬(FileMap.encode records ++ List.replicate boundaryWidth 0 ++ rest).length < minimumLength
    simp only [List.length_append, List.length_replicate, minimumLength]
    omega
  have present : rest ≠ [] := List.ne_nil_of_length_pos (by omega)
  rw [locate, if_neg notShort, splitEq, nextEq]
  simp [Segment.dropFront, Segment.takeFront, Segment.length, present]

/-- Decoding undoes the artifact writer. An artifact written from file-map records none of
which is blank, chunks whose every record is readable under the options, and any trailer,
decodes from its stored bytes to exactly those file-map records and the include records the
chunks describe, with nothing unclassified and no diagnostic. -/
theorem Artifact.decode_stored (nom : Combinators) (lawful : nom.Lawful) (options : DecodeOptions)
    (fileMap : List FileMapRecord) (chunks : List Include.ChunkSpec) (trailer : List UInt8)
    (notBlank : ∀ record ∈ fileMap, record ≠ ⟨0, 0, 0, 0⟩)
    (readable : ∀ chunk ∈ chunks, chunk.Readable options) :
    DebugTables.decodeWith nom options (stored ⟨fileMap, chunks.map Include.ChunkSpec.fields, trailer⟩) =
      .ok ⟨⟨fileMap, { includes := chunks.flatMap Include.ChunkSpec.records }⟩, []⟩ := by
  have logicalEq : logical ⟨fileMap, chunks.map Include.ChunkSpec.fields, trailer⟩ =
      FileMap.encode fileMap ++ List.replicate Sections.boundaryWidth 0 ++
        ((chunks.map Include.ChunkSpec.fields).flatMap Include.storeChunk ++
          (List.replicate Include.terminatorLength 0 ++ trailer)) := by
    simp only [logical, List.append_assoc]
  have long : 4 ≤ ((chunks.map Include.ChunkSpec.fields).flatMap Include.storeChunk ++
      (List.replicate Include.terminatorLength 0 ++ trailer)).length := by
    simp only [List.length_append, List.length_replicate, Include.terminatorLength]
    omega
  rw [DebugTables.decodeWith, stored, List.reverse_reverse, logicalEq,
    Sections.locate_encode notBlank long]
  simp only [bind, Except.bind, Include.decode_storedSection lawful options readable,
    FileMap.decodeWith_encode lawful]
  rfl

/-- A program with one file-map run, one module-level include and one inline reference, followed
by a trailer, reads back as written under the default options and the standard combinators. -/
theorem Artifact.decode_stored_with_includes :
    Combinators.standard.Lawful ∧ (∀ record ∈ [(⟨10, 1, 3, 2⟩ : FileMapRecord)], record ≠ ⟨0, 0, 0, 0⟩) ∧
      (∀ chunk ∈ [(⟨1, #v[0x11111111, 0x22222222, 0x33333333, 0x44444444], "main.p",
          [.fileBoundary 2 #v[0x55555555, 0x66666666, 0x77777777, 0x12345678] 29 "lib.i",
            .inlineRef 3 #v[0x13131313, 0x14141414, 0x15151515, 0x16161616] "x.i"]⟩ :
          Include.ChunkSpec)], chunk.Readable {}) ∧
      DebugTables.decodeWith Combinators.standard {} (stored ⟨[⟨10, 1, 3, 2⟩],
        [(⟨1, #v[0x11111111, 0x22222222, 0x33333333, 0x44444444], "main.p",
          [.fileBoundary 2 #v[0x55555555, 0x66666666, 0x77777777, 0x12345678] 29 "lib.i",
            .inlineRef 3 #v[0x13131313, 0x14141414, 0x15151515, 0x16161616] "x.i"]⟩ :
          Include.ChunkSpec)].map Include.ChunkSpec.fields, [0, 0, 7]⟩) =
        .ok ⟨⟨[⟨10, 1, 3, 2⟩], { includes :=
          [(⟨1, #v[0x11111111, 0x22222222, 0x33333333, 0x44444444], "main.p",
            [.fileBoundary 2 #v[0x55555555, 0x66666666, 0x77777777, 0x12345678] 29 "lib.i",
              .inlineRef 3 #v[0x13131313, 0x14141414, 0x15151515, 0x16161616] "x.i"]⟩ :
            Include.ChunkSpec)].flatMap Include.ChunkSpec.records }⟩, []⟩ :=
  ⟨Combinators.lawful_standard, by decide, by decide,
    decode_stored Combinators.standard Combinators.lawful_standard {} _ _ _ (by decide)
      (by decide)⟩

end ListingMap
