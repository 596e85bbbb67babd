import ListingMap.Proofs.SectionDecode

/-!
# Headers read at fixed positions

With lawful combinators, a header is read from fixed positions of its field. The debug number
is the first byte. A root's words are the big-endian words at 1, 5, 9 and 13. A module-level
include has its tag after its second word, so its words are at 1, 5, 11 and 15; an inline
reference has its tag after its first word, so its words are at 1, 7, 11 and 15. A header is read
when the field holds it (`header_root`, `header_child`), and a root's header that does not fit is
a recoverable error (`header_root_of_lt`).

So the readers give the records at those positions (`rootAt`, `childAt`). A root field of at
least 18 bytes is read, and a shorter one is reported as truncated (`readRoot_eq`); a child field
that holds its header is always read (`readChild_eq`), and every field `classify` accepts holds
it (`readChild_of_classify`). A chunk with a root long enough therefore decodes to that root and
its later fields (`decodeChunk_of_fields_eq_cons`).
-/

namespace ListingMap

namespace Include

/-- The fewest bytes a root record has: its header and one byte of filename. -/
def rootMinimum : Nat := rootNameStart + 1

/-- The four header words at the given positions. -/
def words (field : List UInt8) (a b c d : Nat) : Vector UInt32 4 :=
  #v[Word.read field a, Word.read field b, Word.read field c, Word.read field d]

/-- The positions of the four header words in a child layout. -/
def ChildLayout.wordPositions : ChildLayout → List Nat
  | .fileBoundary => [1, 5, 11, 15]
  | .inlineRef => [1, 7, 11, 15]

/-- The root record a field holds at the positions of the root layout. -/
def rootAt (options : DecodeOptions) (field : List UInt8) : Reported IncludeRecord := do
  let name ← Filename.read options.extendedFilenames field rootNameStart
  pure {
    parentDebugNum := 0
    debugNum := (field.getD 0 0).toUInt32
    words := words field 1 5 9 13
    sourceFilename := name
    kind := .root }

/-- The child record a field holds at the positions of its layout; an inline reference belongs
under `root`. -/
def childAt (options : DecodeOptions) (layout : ChildLayout) (root : UInt32)
    (field : List UInt8) : Reported IncludeRecord := do
  let name ← Filename.read options.extendedFilenames field childNameStart
  let positions := layout.wordPositions
  pure {
    parentDebugNum := match layout with
      | .fileBoundary => 0
      | .inlineRef => root
    debugNum := (field.getD 0 0).toUInt32
    words := words field (positions.getD 0 0) (positions.getD 1 0) (positions.getD 2 0)
      (positions.getD 3 0)
    sourceFilename := name
    kind := layout.kind }

/-- A layout that `classify` accepts lies within the field: the filename starts inside it, and
every header word of the layout ends before the filename. -/
theorem lt_length_of_classify {options : DecodeOptions} {field : List UInt8} {layout : ChildLayout}
    (classified : classify options field = some layout) :
    childNameStart < field.length ∧
      ∀ position ∈ layout.wordPositions, position + 4 ≤ childNameStart := by
  unfold classify at classified
  split at classified
  case isFalse => cases classified
  case isTrue long =>
    refine ⟨long, ?_⟩
    split at classified
    · cases classified
      simp [ChildLayout.wordPositions, childNameStart]
    · split at classified
      · cases classified
        simp [ChildLayout.wordPositions, childNameStart]
      · cases classified

section Lawful

variable {nom : Combinators} (lawful : nom.Lawful)
include lawful

/-- A field that holds a root's header reads as the words at 1, 5, 9 and 13. -/
theorem header_root {field : List UInt8} (long : rootNameStart ≤ field.length) :
    header nom none field =
      .ok (field.drop rootNameStart, field.getD 0 0, words field 1 5 9 13) := by
  simp only [rootNameStart] at long ⊢
  simp (disch := omega) only [header, header.tag, lawful.u8_read, lawful.u32_drop,
    Parser.ok_bind, reduceCtorEq, if_false, words]
  rfl

/-- A field too short for a root's header: the word that runs short is a recoverable error. -/
theorem header_root_of_lt {field : List UInt8} (short : field.length < rootNameStart) :
    header nom none field = .error .error := by
  simp only [rootNameStart] at short
  by_cases empty : field.length = 0
  · rw [List.length_eq_zero_iff.mp empty]
    simp only [header, lawful.u8_nil, Parser.error_bind]
  obtain ⟨holds, runsShort⟩ | ⟨holds, runsShort⟩ | ⟨holds, runsShort⟩ | ⟨holds, runsShort⟩ :
      (0 < field.length ∧ field.length < 5) ∨ (5 ≤ field.length ∧ field.length < 9) ∨
        (9 ≤ field.length ∧ field.length < 13) ∨ (13 ≤ field.length ∧ field.length < 17) := by
    omega
  all_goals
    simp (disch := omega) only [header, header.tag, lawful.u8_read, lawful.u32_drop,
      lawful.u32_drop_of_lt, Parser.ok_bind, Parser.error_bind, reduceCtorEq, if_false]

/-- A field that holds a child's header reads as the words at its layout's positions. -/
theorem header_child (layout : ChildLayout) {field : List UInt8}
    (long : childNameStart ≤ field.length) :
    header nom (some layout.tagAfter) field =
      .ok (field.drop childNameStart, field.getD 0 0,
        words field (layout.wordPositions.getD 0 0) (layout.wordPositions.getD 1 0)
          (layout.wordPositions.getD 2 0) (layout.wordPositions.getD 3 0)) := by
  simp only [childNameStart] at long ⊢
  cases layout <;>
    simp (disch := omega) only [header, header.tag, ChildLayout.tagAfter, lawful.u8_read,
      lawful.u32_drop, lawful.take_drop, Parser.ok_bind, Option.some.injEq, Nat.reduceEqDiff,
      if_true, if_false, words, ChildLayout.wordPositions] <;>
    rfl

/-- A root field is read when it holds its header and a byte of filename, and is reported as
truncated otherwise. -/
theorem readRoot_eq (options : DecodeOptions) (field : Segment) :
    readRoot nom options field =
      if field.bytes.length < rootMinimum then
        ⟨none, [.truncatedRecord field.offset field.bytes.length]⟩
      else some <$> rootAt options field.bytes := by
  by_cases short : field.bytes.length < rootMinimum
  · rw [if_pos short, readRoot]
    by_cases holds : rootNameStart ≤ field.bytes.length
    · rw [header_root lawful holds]
      simp only [rootMinimum] at short
      simp [show ¬rootNameStart < field.bytes.length by omega]
    · rw [header_root_of_lt lawful (by omega)]
  · have long : rootNameStart < field.bytes.length := by
      simp only [rootMinimum] at short
      omega
    rw [if_neg short, readRoot, header_root lawful long.le]
    simp [long, rootAt]

theorem readChild_eq (options : DecodeOptions) (layout : ChildLayout) (root : UInt32)
    {field : List UInt8} (long : childNameStart ≤ field.length) :
    readChild nom options layout root field = some (childAt options layout root field) := by
  unfold readChild
  rw [header_child lawful layout long]
  rfl

/-- A field that `classify` accepts is long enough for its layout's header, so it is read. -/
theorem readChild_of_classify (options : DecodeOptions) {layout : ChildLayout} (root : UInt32)
    {field : List UInt8} (classified : classify options field = some layout) :
    readChild nom options layout root field = some (childAt options layout root field) :=
  readChild_eq lawful options layout root (lt_length_of_classify classified).1.le

/-- A chunk whose root field is long enough decodes to its root and its later fields. -/
theorem decodeChunk_of_fields_eq_cons (options : DecodeOptions) {chunk first : Segment}
    {rest : List Segment} (split : fields chunk = first :: rest)
    (long : ¬first.bytes.length < rootMinimum) :
    decodeChunk nom options chunk =
      (rootAt options first.bytes >>= fun record =>
        rest.mapM (decodeChild nom options record.debugNum) >>= fun children =>
          pure ({ includes := [record] } ++ ModuleLines.concat children)) := by
  simp only [decodeChunk, split, readRoot_eq lawful, if_neg long, bind_map_left]

end Lawful

end Include

end ListingMap
