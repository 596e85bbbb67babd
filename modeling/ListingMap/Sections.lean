import ListingMap.Segment

/-!
# Sections of an artifact

An artifact, read in logical order, holds the file-map table and then the module-line section.
The table ends with the first 16-aligned block of sixteen zero bytes: that block belongs to
neither section. `Sections.locate` finds the boundary and fails with a `DecodeError` when the
artifact is shorter than one record and a word, when no such block exists, or when nothing
follows it.

`Sections.locate?` is the same search with each step as the program takes it: the file map's
length is the first piece's length less the block, a subtraction that stops the program below
zero, and both sections are cut with slices that stop it out of range. It gives `none` where
the program would stop.
-/

namespace ListingMap

/-- Why an artifact could not be decoded at all. -/
inductive DecodeError where
  /-- The artifact has fewer bytes than the smallest artifact. -/
  | truncated (length required : Nat)
  /-- A section the artifact must hold is absent; `name` says which. -/
  | missingSection (name : String)
deriving Repr, DecidableEq, Inhabited

namespace DecodeError

/-- The one-line text of a decode error. -/
def message : DecodeError → String
  | truncated length required =>
      s!"r-code buffer too small: {length} bytes, need at least {required}"
  | missingSection name => s!"r-code has no {name} section"

end DecodeError

/-- The two sections of an artifact, as segments of its logical bytes. -/
structure Sections where
  /-- The file-map records, without the zero block that ends them. -/
  fileMap : Segment
  /-- Everything after that zero block. -/
  moduleLines : Segment
deriving Repr, DecidableEq, Inhabited

namespace Sections

/-- The width of the zero block that ends the file map, which is also the record size. -/
def boundaryWidth : Nat := 16

/-- The fewest bytes an artifact can have: one record and one word. -/
def minimumLength : Nat := boundaryWidth + 4

/-- Finds the file map and the module-line section of an artifact in logical order. -/
def locate (artifact : Segment) : Except DecodeError Sections :=
  if artifact.length < minimumLength then
    .error (.truncated artifact.length minimumLength)
  else
    match artifact.split boundaryWidth 0 with
    | first :: _ :: _ =>
        let moduleLines := artifact.dropFront first.length
        if moduleLines.length = 0 then
          .error (.missingSection "module line")
        else
          .ok ⟨first.takeFront (first.length - boundaryWidth), moduleLines⟩
    | _ => .error (.missingSection "file map")

/-- Finds the two sections as the program does, or `none` where a subtraction below zero or a
slice out of range would stop it. -/
def locate? (artifact : Segment) : Option (Except DecodeError Sections) :=
  if artifact.length < minimumLength then
    some (.error (.truncated artifact.length minimumLength))
  else
    match artifact.split boundaryWidth 0 with
    | first :: _ :: _ =>
        if first.length < boundaryWidth then none
        else do
          let fileMap ← first.slice? 0 (first.length - boundaryWidth)
          let moduleLines ← artifact.slice? first.length artifact.length
          if moduleLines.length = 0 then
            pure (.error (.missingSection "module line"))
          else
            pure (.ok ⟨fileMap, moduleLines⟩)
    | _ => some (.error (.missingSection "file map"))

end Sections

end ListingMap
