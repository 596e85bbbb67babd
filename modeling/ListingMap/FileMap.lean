import ListingMap.Parser

/-!
# The file-map table

The file map ties debug-listing lines to source lines. It is a table of 16-byte records: the
first debug line of the record's run (its source number), the last and the first source line,
and a word whose low byte is the debug number of the include the lines belong to. Lines
`lineBegin` to `lineEnd` of that include occupy the consecutive debug lines from the source
number on.

`FileMap.decodeWith` reads records with a parser repeated over the table, as long as it
succeeds; a table the repetition cannot read at all gives no records. `FileMap.decode` reads with
the standard combinators. `FileMapRecord.bytes` writes a record, with zero high bytes in the last
word.
-/

namespace ListingMap

/-- One run of source lines placed in the debug listing. -/
structure FileMapRecord where
  /-- The debug line that the first source line of the run occupies. -/
  sourceNum : UInt32
  /-- The first source line of the run. -/
  lineBegin : UInt32
  /-- The last source line of the run. -/
  lineEnd : UInt32
  /-- The debug number of the include the source lines belong to. -/
  debugNum : UInt8
deriving Repr, DecidableEq, Inhabited

namespace FileMapRecord

/-- Reads a record: the source number, the last line and the first line, then a word whose low
byte is the debug number. -/
def parse (nom : Combinators) : Parser FileMapRecord := fun input => do
  let (input, sourceNum) ← nom.u32 input
  let (input, lineEnd) ← nom.u32 input
  let (input, lineBegin) ← nom.u32 input
  let (input, last) ← nom.u32 input
  pure (input, { sourceNum, lineBegin, lineEnd, debugNum := (last &&& 0xff).toUInt8 })

/-- The 16 bytes that store a record. -/
def bytes (record : FileMapRecord) : List UInt8 :=
  Word.bytes record.sourceNum ++ Word.bytes record.lineEnd ++ Word.bytes record.lineBegin ++
    Word.bytes record.debugNum.toUInt32

end FileMapRecord

namespace FileMap

/-- Reads records for as long as the parser succeeds; a table the repetition cannot read gives
no records. -/
def decodeWith (nom : Combinators) (table : List UInt8) : List FileMapRecord :=
  match nom.many0 (FileMapRecord.parse nom) table with
  | .ok (_, records) => records
  | .error _ => []

/-- Reads the records of a table with the standard combinators. -/
def decode (table : List UInt8) : List FileMapRecord :=
  decodeWith Combinators.standard table

/-- The table that stores the records, one stride each. -/
def encode (records : List FileMapRecord) : List UInt8 :=
  records.flatMap FileMapRecord.bytes

end FileMap

end ListingMap
