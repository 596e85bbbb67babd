import ListingMap.Proofs.HeaderRead

/-!
# What each chunk contributes

A module-line section is decoded chunk by chunk, and within a chunk field by field. This file
states, for one chunk, what every one of its fields contributes, with no monadic plumbing left:
`chunkIncludes`, `chunkUnclassified` and `chunkDiagnostics`. A chunk without fields contributes
nothing. A chunk whose root field is too short contributes one `truncatedRecord` diagnostic and
nothing else: the fields after it are abandoned with it. Otherwise the root becomes an include
and each later field becomes exactly one child include, when `classify` accepts it, or exactly
one unclassified sub-record together with one `unclassifiedRecord` diagnostic. Records are
those at their layout's positions (`rootAt`, `childAt`): with lawful combinators the readers
read every root long enough and every field `classify` accepts, so no field is dropped
(`decodeChunk_eq`).

The main results are about the decoded section as a whole:

* `ModuleLines.decode_accounts_for_every_field`: with lawful combinators, the decoded includes,
  unclassified sub-records and diagnostics are those of the chunks, in chunk order; and a field
  that `classify` accepts is long enough for every header word of its layout, so reading it
  always gives a record.
* `ModuleLines.decode_includes_linked`: the decoded includes start with a root, carry debug
  numbers from 1 to 255, roots and module-level includes stand alone, and every inline reference
  belongs under the nearest root before it.
-/

namespace ListingMap

namespace Include

/-! ## Records read from fields -/

section Read

variable (options : DecodeOptions) (field : List UInt8)

@[simp]
theorem kind_rootAt : (rootAt options field).value.kind = .root := rfl

@[simp]
theorem parentDebugNum_rootAt : (rootAt options field).value.parentDebugNum = 0 := rfl

@[simp]
theorem debugNum_rootAt : (rootAt options field).value.debugNum = (field.getD 0 0).toUInt32 :=
  rfl

@[simp]
theorem kind_childAt (layout : ChildLayout) (root : UInt32) :
    (childAt options layout root field).value.kind = layout.kind := rfl

@[simp]
theorem debugNum_childAt (layout : ChildLayout) (root : UInt32) :
    (childAt options layout root field).value.debugNum = (field.getD 0 0).toUInt32 := rfl

@[simp]
theorem parentDebugNum_childAt_fileBoundary (root : UInt32) :
    (childAt options .fileBoundary root field).value.parentDebugNum = 0 := rfl

@[simp]
theorem parentDebugNum_childAt_inlineRef (root : UInt32) :
    (childAt options .inlineRef root field).value.parentDebugNum = root := rfl

end Read

@[simp]
theorem kind_ne_root (layout : ChildLayout) : layout.kind ≠ .root := by
  cases layout <;> simp [ChildLayout.kind]

/-! ## Fields -/

theorem head_normalize_ne_zero {stored rest : List UInt8} {byte : UInt8}
    (normalized : normalize stored = byte :: rest) : byte ≠ 0 := by
  rw [normalize] at normalized
  have nonempty : stored.reverse.dropWhile (· == 0) ≠ [] := by simp [normalized]
  have opening := List.head_dropWhile_not (· == 0) nonempty
  simpa [normalized] using opening

theorem getD_zero_ne_zero_of_mem_fields {chunk field : Segment} (mem : field ∈ fields chunk) :
    field.bytes.getD 0 0 ≠ 0 := by
  obtain ⟨stored, -, read⟩ := List.mem_filterMap.mp mem
  split at read
  case h_1 => cases read
  case h_2 bytes nonempty =>
    cases read
    cases normalized : normalize stored.bytes with
    | nil => exact absurd normalized nonempty
    | cons byte rest => simpa [normalized] using head_normalize_ne_zero normalized

/-! ## What a chunk contributes -/

/-- The includes a chunk contributes: nothing when it has no fields or its root field is too
short; otherwise its root, then a child include for every later field that `classify` accepts. -/
def chunkIncludes (options : DecodeOptions) (chunk : Segment) : List IncludeRecord :=
  match fields chunk with
  | [] => []
  | first :: rest =>
      if first.bytes.length < rootMinimum then []
      else
        let root := (rootAt options first.bytes).value
        root :: rest.filterMap fun field =>
          (classify options field.bytes).map fun layout =>
            (childAt options layout root.debugNum field.bytes).value

/-- The sub-records a chunk keeps raw: behind a root that could be read, the later fields that
`classify` rejects, each with the offset of its stored bytes. -/
def chunkUnclassified (options : DecodeOptions) (chunk : Segment) : List UnclassifiedRecord :=
  match fields chunk with
  | [] => []
  | first :: rest =>
      if first.bytes.length < rootMinimum then []
      else
        (rest.filter fun field => (classify options field.bytes).isNone).map fun field =>
          ⟨field.offset, field.bytes⟩

/-- The diagnostics a chunk raises: one `truncatedRecord` for a root field that is too short;
otherwise those of reading the root's filename, then, field by field, those of reading a child's
filename or one `unclassifiedRecord` for a field that `classify` rejects. -/
def chunkDiagnostics (options : DecodeOptions) (chunk : Segment) : List Diagnostic :=
  match fields chunk with
  | [] => []
  | first :: rest =>
      if first.bytes.length < rootMinimum then [.truncatedRecord first.offset first.bytes.length]
      else
        let root := rootAt options first.bytes
        root.diagnostics ++ rest.flatMap fun field =>
          match classify options field.bytes with
          | some layout => (childAt options layout root.value.debugNum field.bytes).diagnostics
          | none => [.unclassifiedRecord field.offset field.bytes.length]

section Decode

variable {nom : Combinators} (lawful : nom.Lawful) (options : DecodeOptions) (root : UInt32)
include lawful

/-- A later field decodes to the child `classify` chooses, at its layout's positions, or is kept
raw with an `unclassifiedRecord` diagnostic. -/
theorem decodeChild_eq (field : Segment) :
    decodeChild nom options root field =
      match classify options field.bytes with
      | some layout => do
          let record ← childAt options layout root field.bytes
          pure { includes := [record] }
      | none =>
          ⟨{ unclassified := [⟨field.offset, field.bytes⟩] },
            [.unclassifiedRecord field.offset field.bytes.length]⟩ := by
  cases classified : classify options field.bytes with
  | none => simp only [decodeChild, classified]
  | some layout =>
      simp only [decodeChild, classified, readChild_of_classify lawful options root classified]

theorem includes_decodeChild (field : Segment) :
    (decodeChild nom options root field).value.includes =
      ((classify options field.bytes).map fun layout =>
        (childAt options layout root field.bytes).value).toList := by
  rw [decodeChild_eq lawful]
  cases classify options field.bytes <;> simp

theorem unclassified_decodeChild (field : Segment) :
    (decodeChild nom options root field).value.unclassified =
      if (classify options field.bytes).isNone then [⟨field.offset, field.bytes⟩] else [] := by
  rw [decodeChild_eq lawful]
  cases classify options field.bytes <;> simp

theorem diagnostics_decodeChild (field : Segment) :
    (decodeChild nom options root field).diagnostics =
      match classify options field.bytes with
      | some layout => (childAt options layout root field.bytes).diagnostics
      | none => [.unclassifiedRecord field.offset field.bytes.length] := by
  rw [decodeChild_eq lawful]
  cases classify options field.bytes <;> simp

theorem flatMap_unclassified_decodeChild (rest : List Segment) :
    rest.flatMap (fun field => (decodeChild nom options root field).value.unclassified) =
      (rest.filter fun field => (classify options field.bytes).isNone).map fun field =>
        ⟨field.offset, field.bytes⟩ := by
  induction rest with
  | nil => rfl
  | cons field more inductionHypothesis =>
      rw [List.flatMap_cons, inductionHypothesis, unclassified_decodeChild lawful,
        List.filter_cons]
      split <;> simp

theorem decodeChunk_eq (chunk : Segment) :
    decodeChunk nom options chunk =
      ⟨⟨chunkIncludes options chunk, chunkUnclassified options chunk⟩,
        chunkDiagnostics options chunk⟩ := by
  cases split : fields chunk with
  | nil => simp [decodeChunk, chunkIncludes, chunkUnclassified, chunkDiagnostics, split]; rfl
  | cons first rest =>
      by_cases short : first.bytes.length < rootMinimum
      · simp [decodeChunk, chunkIncludes, chunkUnclassified, chunkDiagnostics, split, short,
          readRoot_eq lawful]
        rfl
      · rw [decodeChunk_of_fields_eq_cons lawful options split short]
        apply Reported.ext
        · apply ModuleLines.ext
          · simp [chunkIncludes, split, short, List.flatMap_map, includes_decodeChild lawful,
              List.filterMap_eq_flatMap_toList]
          · simp [chunkUnclassified, split, short, List.flatMap_map,
              flatMap_unclassified_decodeChild lawful]
        · simp [chunkDiagnostics, split, short, diagnostics_decodeChild lawful]

end Decode

/-! ## Roots and the records under them -/

/-- The last root among `records`: the root that the records after them stand under. -/
def lastRoot? (records : List IncludeRecord) : Option IncludeRecord :=
  records.reverse.find? (·.kind == .root)

theorem lastRoot?_append (first second : List IncludeRecord) :
    lastRoot? (first ++ second) = (lastRoot? second).or (lastRoot? first) := by
  simp only [lastRoot?, List.reverse_append, List.find?_append]

theorem lastRoot?_eq_none {records : List IncludeRecord}
    (noRoot : ∀ record ∈ records, record.kind ≠ .root) : lastRoot? records = none := by
  rw [lastRoot?, List.find?_eq_none]
  intro record mem
  simpa using noRoot record (List.mem_reverse.mp mem)

/-- The includes of one chunk: none, or a root followed by records that are not roots. The root
and the module-level includes stand alone; the inline references stand under the root. -/
inductive ChunkShape : List IncludeRecord → Prop
  | empty : ChunkShape []
  | rooted (root : IncludeRecord) (children : List IncludeRecord) (isRoot : root.kind = .root)
      (rootAlone : root.parentDebugNum = 0)
      (notRoot : ∀ child ∈ children, child.kind ≠ .root)
      (alone : ∀ child ∈ children, child.kind = .fileBoundary → child.parentDebugNum = 0)
      (under : ∀ child ∈ children, child.kind = .inlineRef →
        child.parentDebugNum = root.debugNum) :
      ChunkShape (root :: children)

/-- Every inline reference stands under the nearest root before it. -/
def InlineLinked (records : List IncludeRecord) : Prop :=
  ∀ before record after, records = before ++ record :: after → record.kind = .inlineRef →
    (lastRoot? before).map (·.debugNum) = some record.parentDebugNum

theorem inlineLinked_nil : InlineLinked [] := by
  intro before record after split
  simp at split

/-- A chunk's includes keep the links of what follows them: a later inline reference finds its
root after the chunk, and one inside the chunk finds the chunk's root, as no other root stands
between them. -/
theorem ChunkShape.inlineLinked_append {group rest : List IncludeRecord} (shape : ChunkShape group)
    (linked : InlineLinked rest) : InlineLinked (group ++ rest) := by
  intro before record after split inline
  rcases List.append_eq_append_iff.mp split with
    ⟨middle, beforeEq, restEq⟩ | ⟨inside, groupEq, tail⟩
  · have found := linked middle record after restEq inline
    obtain ⟨root, found', -⟩ := Option.map_eq_some_iff.mp found
    rw [beforeEq, lastRoot?_append, found', Option.some_or, ← found']
    exact found
  · cases inside with
    | nil =>
        have found := linked [] record after (by simpa using tail.symm) inline
        simp [lastRoot?] at found
    | cons first later =>
        obtain ⟨rfl, rfl⟩ := List.cons_eq_cons.mp tail
        cases shape with
        | empty => simp at groupEq
        | rooted root children isRoot rootAlone notRoot alone under =>
            cases before with
            | nil =>
                obtain ⟨rfl, -⟩ := List.cons_eq_cons.mp groupEq
                simp [isRoot] at inline
            | cons head between =>
                obtain ⟨rfl, childrenEq⟩ := List.cons_eq_cons.mp groupEq
                have child : record ∈ children := by simp [childrenEq]
                have noRoot : ∀ record ∈ between, record.kind ≠ .root :=
                  fun record mem => notRoot record (by simp [childrenEq, mem])
                rw [← List.singleton_append, lastRoot?_append, lastRoot?_eq_none noRoot,
                  Option.none_or, under record child inline]
                simp [lastRoot?, isRoot]

/-- Chunks' includes laid one after another keep every inline reference under its root. -/
theorem inlineLinked_flatten {groups : List (List IncludeRecord)}
    (shapes : ∀ group ∈ groups, ChunkShape group) : InlineLinked groups.flatten := by
  induction groups with
  | nil => exact inlineLinked_nil
  | cons group more inductionHypothesis =>
      rw [List.flatten_cons]
      exact (shapes group List.mem_cons_self).inlineLinked_append
        (inductionHypothesis fun other mem => shapes other (List.mem_cons_of_mem _ mem))

theorem flatten_eq_nil_or_root {groups : List (List IncludeRecord)}
    (shapes : ∀ group ∈ groups, ChunkShape group) :
    groups.flatten = [] ∨ ∃ root rest, groups.flatten = root :: rest ∧ root.kind = .root := by
  induction groups with
  | nil => exact .inl rfl
  | cons group more inductionHypothesis =>
      cases shapes group List.mem_cons_self with
      | empty =>
          simpa using inductionHypothesis fun other mem => shapes other (List.mem_cons_of_mem _ mem)
      | rooted root children isRoot => exact .inr ⟨root, _, rfl, isRoot⟩

theorem parentDebugNum_of_mem_flatten {groups : List (List IncludeRecord)}
    (shapes : ∀ group ∈ groups, ChunkShape group) {record : IncludeRecord}
    (mem : record ∈ groups.flatten)
    (standalone : record.kind = .root ∨ record.kind = .fileBoundary) :
    record.parentDebugNum = 0 := by
  obtain ⟨group, groupMem, recordMem⟩ := List.mem_flatten.mp mem
  cases shapes group groupMem with
  | empty => simp at recordMem
  | rooted root children isRoot rootAlone notRoot alone under =>
      rcases List.mem_cons.mp recordMem with rfl | child
      · exact rootAlone
      · rcases standalone with rooted | boundary
        · exact absurd rooted (notRoot record child)
        · exact alone record child boundary

/-- Every include after a chunk's root is read from a later field, in the layout `classify`
chose for it. -/
theorem exists_of_mem_filterMap_childAt {options : DecodeOptions} {root : UInt32}
    {rest : List Segment} {child : IncludeRecord}
    (mem : child ∈ rest.filterMap fun field =>
      (classify options field.bytes).map fun layout =>
        (childAt options layout root field.bytes).value) :
    ∃ field ∈ rest, ∃ layout, classify options field.bytes = some layout ∧
      child = (childAt options layout root field.bytes).value := by
  obtain ⟨field, fieldMem, read⟩ := List.mem_filterMap.mp mem
  obtain ⟨layout, classified, rfl⟩ := Option.map_eq_some_iff.mp read
  exact ⟨field, fieldMem, layout, classified, rfl⟩

theorem chunkShape_chunkIncludes (options : DecodeOptions) (chunk : Segment) :
    ChunkShape (chunkIncludes options chunk) := by
  unfold chunkIncludes
  split
  · exact .empty
  · split
    · exact .empty
    · refine .rooted _ _ (kind_rootAt _ _) (parentDebugNum_rootAt _ _) ?notRoot ?alone ?under
      case notRoot =>
        intro child mem
        obtain ⟨field, -, layout, -, rfl⟩ := exists_of_mem_filterMap_childAt mem
        exact kind_ne_root layout
      case alone =>
        intro child mem boundary
        obtain ⟨field, -, layout, -, rfl⟩ := exists_of_mem_filterMap_childAt mem
        cases layout <;> simp_all [ChildLayout.kind]
      case under =>
        intro child mem inline
        obtain ⟨field, -, layout, -, rfl⟩ := exists_of_mem_filterMap_childAt mem
        cases layout <;> simp_all [ChildLayout.kind]

/-- Every include of a chunk is read from one of its fields, with that field's first byte as its
debug number. -/
theorem exists_field_of_mem_chunkIncludes {options : DecodeOptions} {chunk : Segment}
    {record : IncludeRecord} (mem : record ∈ chunkIncludes options chunk) :
    ∃ field ∈ fields chunk, record.debugNum = (field.bytes.getD 0 0).toUInt32 := by
  unfold chunkIncludes at mem
  split at mem
  case h_1 => simp at mem
  case h_2 first rest split =>
    split at mem
    case isTrue => simp at mem
    case isFalse =>
      rcases List.mem_cons.mp mem with rfl | child
      · exact ⟨first, by simp [split], debugNum_rootAt _ _⟩
      · obtain ⟨field, fieldMem, layout, -, rfl⟩ := exists_of_mem_filterMap_childAt child
        exact ⟨field, by simp [split, fieldMem], debugNum_childAt _ _ _ _⟩

theorem toUInt32_mem_range {byte : UInt8} (nonzero : byte ≠ 0) :
    1 ≤ byte.toUInt32 ∧ byte.toUInt32 ≤ 255 := by
  have bound := byte.toNat_lt
  have positive : byte.toNat ≠ 0 := fun zero => nonzero (UInt8.toNat_inj.mp (by simpa using zero))
  simp only [UInt32.le_iff_toNat_le, UInt8.toNat_toUInt32]
  constructor <;> simp <;> omega

end Include

namespace ModuleLines

section Lawful

variable {nom : Combinators} (lawful : nom.Lawful) (options : DecodeOptions) (lines : Segment)
include lawful

theorem includes_decodeWith :
    (decodeWith nom options lines).value.includes =
      (Include.chunks lines).flatMap (Include.chunkIncludes options) := by
  simp [value_decodeWith, List.flatMap_map, Include.decodeChunk_eq lawful]

theorem unclassified_decodeWith :
    (decodeWith nom options lines).value.unclassified =
      (Include.chunks lines).flatMap (Include.chunkUnclassified options) := by
  simp [value_decodeWith, List.flatMap_map, Include.decodeChunk_eq lawful]

theorem diagnostics_decodeWith_eq_flatMap :
    (decodeWith nom options lines).diagnostics =
      (Include.chunks lines).flatMap (Include.chunkDiagnostics options) := by
  simp [diagnostics_decodeWith, Include.decodeChunk_eq lawful]

end Lawful

/-- Decoding a section loses no field silently, with any lawful combinators. The includes,
unclassified sub-records and diagnostics are those the chunks contribute, in chunk order: per
chunk, nothing without fields; one `truncatedRecord` and nothing else for a root field that is
too short; otherwise the root, then for each later field in order either the child include
`classify` chooses or the field kept raw with an `unclassifiedRecord` diagnostic. A field that
`classify` accepts holds every header word of its layout before its filename and its filename
starts inside it, so the child reader always gives its record. -/
theorem decode_accounts_for_every_field (nom : Combinators) (lawful : nom.Lawful)
    (options : DecodeOptions) (lines : Segment) :
    (decodeWith nom options lines).value.includes =
        (Include.chunks lines).flatMap (Include.chunkIncludes options) ∧
      (decodeWith nom options lines).value.unclassified =
        (Include.chunks lines).flatMap (Include.chunkUnclassified options) ∧
      (decodeWith nom options lines).diagnostics =
        (Include.chunks lines).flatMap (Include.chunkDiagnostics options) ∧
      ∀ field layout, Include.classify options field = some layout →
        (Include.childNameStart < field.length ∧
          ∀ position ∈ layout.wordPositions, position + 4 ≤ Include.childNameStart) ∧
        ∀ root, (Include.readChild nom options layout root field).isSome :=
  ⟨includes_decodeWith lawful options lines, unclassified_decodeWith lawful options lines,
    diagnostics_decodeWith_eq_flatMap lawful options lines, fun _ _ classified =>
      ⟨Include.lt_length_of_classify classified, fun root => by
        rw [Include.readChild_of_classify lawful options root classified]
        rfl⟩⟩

/-- The standard combinators account for every field of a section whose one chunk holds a root
too short to read. -/
theorem decode_accounts_for_truncated_root :
    Combinators.standard.Lawful ∧
      let lines : Segment := ⟨[7, 0, 0, 0, 0, 0, 0, 0, 0, 0, 0, 0, 0, 0, 0, 0], 16⟩
      (decodeWith Combinators.standard {} lines).value.includes =
          (Include.chunks lines).flatMap (Include.chunkIncludes {}) ∧
        (decodeWith Combinators.standard {} lines).value.unclassified =
          (Include.chunks lines).flatMap (Include.chunkUnclassified {}) ∧
        (decodeWith Combinators.standard {} lines).diagnostics =
          (Include.chunks lines).flatMap (Include.chunkDiagnostics {}) ∧
        ∀ field layout, Include.classify {} field = some layout →
          (Include.childNameStart < field.length ∧
            ∀ position ∈ layout.wordPositions, position + 4 ≤ Include.childNameStart) ∧
          ∀ root, (Include.readChild Combinators.standard {} layout root field).isSome :=
  ⟨Combinators.lawful_standard,
    decode_accounts_for_every_field Combinators.standard Combinators.lawful_standard {} _⟩

/-- The decoded includes are linked as the format intends: the list is empty or starts with a
root; every debug number lies between 1 and 255, since a field's leading zeros are dropped before
its debug number is read; roots and module-level includes have no parent; and every inline
reference has as parent the debug number of the nearest root before it. -/
theorem decode_includes_linked (options : DecodeOptions) (lines : Segment) :
    ((decode options lines).value.includes = [] ∨
        ∃ root rest,
          (decode options lines).value.includes = root :: rest ∧ root.kind = .root) ∧
      (∀ record ∈ (decode options lines).value.includes,
        1 ≤ record.debugNum ∧ record.debugNum ≤ 255) ∧
      (∀ record ∈ (decode options lines).value.includes,
        record.kind = .root ∨ record.kind = .fileBoundary → record.parentDebugNum = 0) ∧
      ∀ before record after, (decode options lines).value.includes = before ++ record :: after →
        record.kind = .inlineRef →
          (Include.lastRoot? before).map (·.debugNum) = some record.parentDebugNum := by
  have flattened : (decode options lines).value.includes =
      ((Include.chunks lines).map (Include.chunkIncludes options)).flatten := by
    rw [← List.flatMap_def]
    exact includes_decodeWith Combinators.lawful_standard options lines
  have shapes : ∀ group ∈ (Include.chunks lines).map (Include.chunkIncludes options),
      Include.ChunkShape group := by
    intro group mem
    obtain ⟨chunk, -, rfl⟩ := List.mem_map.mp mem
    exact Include.chunkShape_chunkIncludes options chunk
  refine ⟨flattened ▸ Include.flatten_eq_nil_or_root shapes, ?_, ?_,
    flattened ▸ Include.inlineLinked_flatten shapes⟩
  · intro record mem
    obtain ⟨group, groupMem, recordMem⟩ := List.mem_flatten.mp (flattened ▸ mem)
    obtain ⟨chunk, -, rfl⟩ := List.mem_map.mp groupMem
    obtain ⟨field, fieldMem, debugNum⟩ := Include.exists_field_of_mem_chunkIncludes recordMem
    rw [debugNum]
    exact Include.toUInt32_mem_range (Include.getD_zero_ne_zero_of_mem_fields fieldMem)
  · intro record mem standalone
    exact Include.parentDebugNum_of_mem_flatten shapes (flattened ▸ mem) standalone

end ModuleLines

end ListingMap
