import ListingMap.Artifact
import ListingMap.Proofs.HeaderRead
import ListingMap.Proofs.FilenameRead

/-!
# Reading back the fields a writer lays out

`ListingMap.Artifact` writes include records in three layouts: roots, module-level includes and
inline references. The layout reader of `ListingMap.Include` gets back what was written when the
header is one it can tell apart from padding. That means a nonzero debug number, header words
without zero bytes, and a name of printable characters (`Legible`). A module-level include must
carry one of the module-level tags, and an inline reference needs the inline tag to be the
writer's `8` (`ChildSpec.Readable`).

`ChunkSpec` describes a chunk as a writer lays it out: a root and the records after it. Its
`fields` are the bytes written, and its `records` are the include records a reader should get.
Every field written this way opens with a nonzero byte and holds at most three zero bytes
(`Storable`). The next file uses this to show that storing and splitting never cuts a field.
-/

namespace ListingMap

namespace Include

/-! ## Names -/

/-- A character a name may hold: printable ASCII. -/
def PrintableChar (c : Char) : Prop := 32 ≤ c.toNat ∧ c.toNat ≤ 126

instance : DecidablePred PrintableChar := fun c =>
  inferInstanceAs (Decidable (32 ≤ c.toNat ∧ c.toNat ≤ 126))

theorem toNat_toUInt8 {c : Char} (printable : PrintableChar c) : c.toUInt8.toNat = c.toNat := by
  rw [← Char.toUInt8_val, UInt32.toNat_toUInt8, Char.toNat_val]
  exact Nat.mod_eq_of_lt (by unfold PrintableChar at printable; omega)

theorem toUInt8_ne_zero {c : Char} (printable : PrintableChar c) : c.toUInt8 ≠ 0 := by
  intro zero
  have := toNat_toUInt8 printable
  rw [zero] at this
  unfold PrintableChar at printable
  simp at this
  omega

theorem nameBytes_eq {name : String} (printable : ∀ c ∈ name.toList, PrintableChar c) :
    nameBytes name = name.toList.map Char.toUInt8 ++ [0] := by
  have ascii : ∀ (chars : List Char), (∀ c ∈ chars, PrintableChar c) →
      chars.flatMap String.utf8EncodeChar = chars.map Char.toUInt8 := by
    intro chars
    induction chars with
    | nil => intro _; rfl
    | cons c rest inductionHypothesis =>
        intro all
        have one : c.utf8Size = 1 := by
          have bounded := all c (by simp)
          unfold PrintableChar at bounded
          rw [Char.utf8Size_eq_one_iff, UInt32.le_iff_toNat_le]
          simp only [Char.toNat_val] at *
          simp
          omega
        simp [String.utf8EncodeChar_eq_singleton one,
          inductionHypothesis fun d mem => all d (by simp [mem])]
  rw [nameBytes, ByteArray.toList_eq_data_toList, String.toUTF8, ← String.utf8Encode_toList,
    List.utf8Encode, List.toList_data_toByteArray, ascii _ printable]

theorem glyph_toUInt8 {c : Char} (printable : PrintableChar c) :
    Filename.glyph c.toUInt8 = c := by
  by_cases space : c.toNat = 32
  · have isSpace : c = ' ' := by
      rw [← Char.ofNat_toNat c, space]
    subst isSpace
    rfl
  have code := toNat_toUInt8 printable
  unfold PrintableChar at printable
  have notControl : ¬c.toUInt8 < 32 := by
    rw [UInt8.lt_iff_toNat_lt, code]
    simp
    omega
  have notSpace : c.toUInt8 ≠ 32 := fun isSpace => space (by rw [← code, isSpace]; rfl)
  have visible : c.toUInt8 < 127 := by
    rw [UInt8.lt_iff_toNat_lt, code]
    simp
    omega
  simp [Filename.glyph, Symbol.ofByte, notControl, notSpace, visible, code, Char.ofNat_toNat]

/-- Reading a filename over printable bytes and a NUL gives the characters, with no
diagnostic. -/
theorem readFrom_text (extended : Bool) (start : Nat) (chars : List Char) (rest : List UInt8)
    (printable : ∀ c ∈ chars, PrintableChar c) (position : Nat) :
    Filename.readFrom extended start position (chars.map Char.toUInt8 ++ 0 :: rest) =
      ⟨chars, []⟩ := by
  induction chars generalizing position with
  | nil => simp [Filename.readFrom]
  | cons c more inductionHypothesis =>
      have cPrintable := printable c (by simp)
      have admitted : Filename.admits extended c.toUInt8 = true := by
        have code := toNat_toUInt8 cPrintable
        unfold PrintableChar at cPrintable
        simp only [Filename.admits, Symbol.isPrintable, Bool.or_eq_true, Bool.and_eq_true,
          decide_eq_true_eq, UInt8.le_iff_toNat_le, code]
        left
        simp
        omega
      rw [List.map_cons, List.cons_append, Filename.readFrom, if_neg (toUInt8_ne_zero cPrintable),
        if_pos admitted, inductionHypothesis fun d mem => printable d (by simp [mem]),
        glyph_toUInt8 cPrintable]

theorem read_name_of_drop (extended : Bool) {buffer : List UInt8} {position : Nat}
    {name : String} (rest : buffer.drop position = nameBytes name)
    (printable : ∀ c ∈ name.toList, PrintableChar c) :
    Filename.read extended buffer position = ⟨name, []⟩ := by
  rw [Filename.read, rest, nameBytes_eq printable, readFrom_text extended _ _ [] printable]
  simp

@[simp]
theorem nameBytes_ne_nil (name : String) : nameBytes name ≠ [] := by
  simp [nameBytes]

/-! ## Words -/

theorem words_cases (words : Vector UInt32 4) : ∃ a b c d, words = #v[a, b, c, d] := by
  obtain ⟨⟨_ | ⟨a, _ | ⟨b, _ | ⟨c, _ | ⟨d, _ | ⟨e, rest⟩⟩⟩⟩⟩⟩, size⟩ := words <;>
    simp at size
  exact ⟨a, b, c, d, rfl⟩

/-! ## What a writer describes -/

/-- A record after a chunk's root, as a writer lays it out. -/
inductive ChildSpec where
  /-- A module-level include, marked by `tag`. -/
  | fileBoundary (debugNum : UInt8) (words : Vector UInt32 4) (tag : UInt8) (name : String)
  /-- An inline reference to an include under the chunk's root. -/
  | inlineRef (debugNum : UInt8) (words : Vector UInt32 4) (name : String)
deriving Repr, DecidableEq

/-- A chunk as a writer lays it out: its root record and the records after it. -/
structure ChunkSpec where
  /-- The root's debug number. -/
  debugNum : UInt8
  /-- The root's header words. -/
  words : Vector UInt32 4
  /-- The root's filename. -/
  name : String
  /-- The records after the root, in order. -/
  children : List ChildSpec
deriving Repr, DecidableEq

namespace ChildSpec

/-- The field a writer lays out for the record. -/
def field : ChildSpec → List UInt8
  | fileBoundary debugNum words tag name => fileBoundaryField debugNum words tag name
  | inlineRef debugNum words name => inlineRefField debugNum words name

/-- The include record a reader should get, under a chunk whose root has debug number `root`. -/
def record (root : UInt32) : ChildSpec → IncludeRecord
  | fileBoundary debugNum words _ name => ⟨0, debugNum.toUInt32, words, name, .fileBoundary⟩
  | inlineRef debugNum words name => ⟨root, debugNum.toUInt32, words, name, .inlineRef⟩

end ChildSpec

namespace ChunkSpec

/-- The fields of the chunk in reading order, root first. -/
def fields (chunk : ChunkSpec) : List (List UInt8) :=
  rootField chunk.debugNum chunk.words chunk.name :: chunk.children.map ChildSpec.field

/-- The include records a reader should get from the chunk. -/
def records (chunk : ChunkSpec) : List IncludeRecord :=
  ⟨0, chunk.debugNum.toUInt32, chunk.words, chunk.name, .root⟩ ::
    chunk.children.map (ChildSpec.record chunk.debugNum.toUInt32)

end ChunkSpec

/-- A header the layout reader gets back: a nonzero debug number, which normalising would
strip, header words without zero bytes, and a name of printable characters. -/
structure Legible (debugNum : UInt8) (words : Vector UInt32 4) (name : String) : Prop where
  debugNum_ne_zero : debugNum ≠ 0
  words_ne_zero : ∀ word ∈ words.toList, ∀ byte ∈ Word.bytes word, byte ≠ 0
  name_printable : ∀ c ∈ name.toList, PrintableChar c

theorem legible_iff {debugNum : UInt8} {words : Vector UInt32 4} {name : String} :
    Legible debugNum words name ↔ debugNum ≠ 0 ∧
      (∀ word ∈ words.toList, ∀ byte ∈ Word.bytes word, byte ≠ 0) ∧
        ∀ c ∈ name.toList, PrintableChar c :=
  ⟨fun legible => ⟨legible.1, legible.2, legible.3⟩,
    fun ⟨debugNum, words, name⟩ => ⟨debugNum, words, name⟩⟩

/-- Legibility is decided by one pass over the header and the name. -/
instance (debugNum : UInt8) (words : Vector UInt32 4) (name : String) :
    Decidable (Legible debugNum words name) :=
  decidable_of_iff ((debugNum != 0 && words.toList.all (fun word => (Word.bytes word).all (· != 0)) &&
      name.toList.all fun c => 32 ≤ c.toNat && c.toNat ≤ 126) = true)
    (by simp only [legible_iff, PrintableChar, Bool.and_eq_true, List.all_eq_true, bne_iff_ne,
      decide_eq_true_eq, and_assoc])

/-- A record after the root that the reader classifies as written: a module-level include
carries a module-level tag, and an inline reference relies on the inline tag being `8`. -/
def ChildSpec.Readable (options : DecodeOptions) : ChildSpec → Prop
  | .fileBoundary debugNum words tag name =>
      Legible debugNum words name ∧ tag ∈ options.moduleLevelTags
  | .inlineRef debugNum words name => Legible debugNum words name ∧ options.inlineTag = 8

instance (options : DecodeOptions) : DecidablePred (ChildSpec.Readable options)
  | .fileBoundary .. => inferInstanceAs (Decidable (_ ∧ _))
  | .inlineRef .. => inferInstanceAs (Decidable (_ ∧ _))

/-- A chunk whose every record reads back as written. -/
def ChunkSpec.Readable (options : DecodeOptions) (chunk : ChunkSpec) : Prop :=
  Legible chunk.debugNum chunk.words chunk.name ∧
    ∀ child ∈ chunk.children, child.Readable options

instance (options : DecodeOptions) : DecidablePred (ChunkSpec.Readable options) := fun chunk =>
  inferInstanceAs (Decidable (Legible chunk.debugNum chunk.words chunk.name ∧
    ∀ child ∈ chunk.children, child.Readable options))

/-! ## Reading the layouts back -/

theorem rootAt_rootField (options : DecodeOptions) {debugNum : UInt8}
    {words : Vector UInt32 4} {name : String} (legible : Legible debugNum words name) :
    rootAt options (rootField debugNum words name) =
      ⟨⟨0, debugNum.toUInt32, words, name, .root⟩, []⟩ := by
  obtain ⟨a, b, c, d, rfl⟩ := words_cases words
  have nameRead : Filename.read options.extendedFilenames
      (rootField debugNum #v[a, b, c, d] name) rootNameStart = ⟨name, []⟩ :=
    read_name_of_drop _ (by simp [rootField, wordBytes, rootNameStart, List.drop_append])
      legible.name_printable
  simp only [rootAt, nameRead]
  apply Reported.ext
  · simp [rootField, wordBytes, words, Word.read, List.drop_append, List.take_append]
  · rfl

/-- The module-level test comes first, so a tagged field is a module-level include whatever
its other bytes hold. -/
theorem classify_fileBoundaryField (options : DecodeOptions) {debugNum tag : UInt8}
    {words : Vector UInt32 4} {name : String} (tagged : tag ∈ options.moduleLevelTags) :
    classify options (fileBoundaryField debugNum words tag name) = some .fileBoundary := by
  obtain ⟨a, b, c, d, rfl⟩ := words_cases words
  simp [classify, fileBoundaryField, wordBytes, childNameStart, List.getD_eq_getElem?_getD,
    tagged, Word.bytes]

/-- An inline reference passes the module-level test only if its second word has a zero byte
where a module-level include has its marker zero; a legible header has none. -/
theorem classify_inlineRefField (options : DecodeOptions) {debugNum : UInt8}
    {words : Vector UInt32 4} {name : String} (legible : Legible debugNum words name)
    (inline : options.inlineTag = 8) :
    classify options (inlineRefField debugNum words name) = some .inlineRef := by
  obtain ⟨a, b, c, d, rfl⟩ := words_cases words
  have apart : (b >>> 8).toUInt8 ≠ 0 :=
    legible.words_ne_zero b (by simp) _ (by simp [Word.bytes])
  simp [classify, inlineRefField, wordBytes, childNameStart, List.getD_eq_getElem?_getD, inline,
    Word.bytes, apart]

theorem childAt_fileBoundaryField (options : DecodeOptions) (root : UInt32)
    {debugNum tag : UInt8} {words : Vector UInt32 4} {name : String}
    (legible : Legible debugNum words name) :
    childAt options .fileBoundary root (fileBoundaryField debugNum words tag name) =
      ⟨⟨0, debugNum.toUInt32, words, name, .fileBoundary⟩, []⟩ := by
  obtain ⟨a, b, c, d, rfl⟩ := words_cases words
  have nameRead : Filename.read options.extendedFilenames
      (fileBoundaryField debugNum #v[a, b, c, d] tag name) childNameStart = ⟨name, []⟩ :=
    read_name_of_drop _ (by simp [fileBoundaryField, wordBytes, childNameStart, List.drop_append])
      legible.name_printable
  simp only [childAt, nameRead]
  apply Reported.ext
  · simp [fileBoundaryField, wordBytes, words, Word.read, List.drop_append, List.take_append,
      ChildLayout.wordPositions, ChildLayout.kind]
  · rfl

theorem childAt_inlineRefField (options : DecodeOptions) (root : UInt32)
    {debugNum : UInt8} {words : Vector UInt32 4} {name : String}
    (legible : Legible debugNum words name) :
    childAt options .inlineRef root (inlineRefField debugNum words name) =
      ⟨⟨root, debugNum.toUInt32, words, name, .inlineRef⟩, []⟩ := by
  obtain ⟨a, b, c, d, rfl⟩ := words_cases words
  have nameRead : Filename.read options.extendedFilenames
      (inlineRefField debugNum #v[a, b, c, d] name) childNameStart = ⟨name, []⟩ :=
    read_name_of_drop _ (by simp [inlineRefField, wordBytes, childNameStart, List.drop_append])
      legible.name_printable
  simp only [childAt, nameRead]
  apply Reported.ext
  · simp [inlineRefField, wordBytes, words, Word.read, List.drop_append, List.take_append,
      ChildLayout.wordPositions, ChildLayout.kind]
  · rfl

theorem decodeChild_field {nom : Combinators} (lawful : nom.Lawful) (options : DecodeOptions)
    (root : UInt32) {child : ChildSpec} (readable : child.Readable options) (offset : Nat) :
    decodeChild nom options root ⟨child.field, offset⟩ =
      ⟨{ includes := [child.record root] }, []⟩ := by
  cases child with
  | fileBoundary debugNum words tag name =>
      obtain ⟨legible, tagged⟩ := readable
      have classified : classify options (fileBoundaryField debugNum words tag name) =
          some .fileBoundary :=
        classify_fileBoundaryField options tagged
      simp only [decodeChild, ChildSpec.field, classified,
        readChild_of_classify lawful options root classified,
        childAt_fileBoundaryField options root legible]
      rfl
  | inlineRef debugNum words name =>
      obtain ⟨legible, inline⟩ := readable
      have classified := classify_inlineRefField options legible inline
      simp only [decodeChild, ChildSpec.field, classified,
        readChild_of_classify lawful options root classified,
        childAt_inlineRefField options root legible]
      rfl

/-! ## Fields survive storage -/

/-- A field that storing and splitting hand back whole: it opens with a nonzero byte, where
normalising stops, and holds fewer than four zero bytes, so no run of four zeros lies inside
it. -/
structure Storable (field : List UInt8) : Prop where
  opens : ∃ byte rest, field = byte :: rest ∧ byte ≠ 0
  fewZeros : field.count 0 < fieldWidth

theorem Legible.count_zero_bytes {debugNum : UInt8} {words : Vector UInt32 4} {name : String}
    (legible : Legible debugNum words name) {word : UInt32} (mem : word ∈ words.toList) :
    (Word.bytes word).count 0 = 0 :=
  List.count_eq_zero.mpr fun zero => legible.words_ne_zero word mem 0 zero rfl

theorem Legible.count_zero_name {debugNum : UInt8} {words : Vector UInt32 4} {name : String}
    (legible : Legible debugNum words name) : (name.toList.map Char.toUInt8).count 0 = 0 := by
  refine List.count_eq_zero.mpr fun zero => ?_
  obtain ⟨c, mem, isZero⟩ := List.mem_map.mp zero
  exact toUInt8_ne_zero (legible.name_printable c mem) isZero

theorem storable_rootField {debugNum : UInt8} {words : Vector UInt32 4} {name : String}
    (legible : Legible debugNum words name) : Storable (rootField debugNum words name) := by
  obtain ⟨a, b, c, d, rfl⟩ := words_cases words
  refine ⟨⟨_, _, rfl, legible.debugNum_ne_zero⟩, ?_⟩
  simp [rootField, wordBytes, nameBytes_eq legible.name_printable, List.count_append,
    legible.count_zero_bytes, legible.count_zero_name, fieldWidth, legible.debugNum_ne_zero]

theorem ChildSpec.storable_field {child : ChildSpec} (options : DecodeOptions)
    (readable : child.Readable options) : Storable child.field := by
  cases child with
  | fileBoundary debugNum words tag name =>
      obtain ⟨legible, -⟩ := readable
      obtain ⟨a, b, c, d, rfl⟩ := words_cases words
      refine ⟨⟨_, _, rfl, legible.debugNum_ne_zero⟩, ?_⟩
      simp [field, fileBoundaryField, wordBytes, nameBytes_eq legible.name_printable,
        List.count_append, legible.count_zero_bytes, legible.count_zero_name, fieldWidth,
        List.count_cons, legible.debugNum_ne_zero]
      split <;> omega
  | inlineRef debugNum words name =>
      obtain ⟨legible, -⟩ := readable
      obtain ⟨a, b, c, d, rfl⟩ := words_cases words
      refine ⟨⟨_, _, rfl, legible.debugNum_ne_zero⟩, ?_⟩
      simp [field, inlineRefField, wordBytes, nameBytes_eq legible.name_printable,
        List.count_append, legible.count_zero_bytes, legible.count_zero_name, fieldWidth,
        legible.debugNum_ne_zero]

theorem ChunkSpec.storable_fields {chunk : ChunkSpec} {options : DecodeOptions}
    (readable : chunk.Readable options) : ∀ field ∈ chunk.fields, Storable field := by
  intro field mem
  rcases List.mem_cons.mp mem with rfl | later
  · exact storable_rootField readable.1
  · obtain ⟨child, childMem, rfl⟩ := List.mem_map.mp later
    exact child.storable_field options (readable.2 child childMem)

end Include

end ListingMap
