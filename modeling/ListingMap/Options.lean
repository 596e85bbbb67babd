/-!
# Decode options

The module-line section tells its record layouts apart by tag bytes, and which tags mark which
layout varies between producers of artifacts. `DecodeOptions` holds those tags and says whether
filenames may hold bytes of the high half. Each field has its own default, so a configuration
that names only some fields keeps the defaults of the others.
-/

namespace ListingMap

/-- How module-line records are classified and how their filenames are read. -/
structure DecodeOptions where
  /-- Tag bytes that mark a module-level include. -/
  moduleLevelTags : List UInt8 := [8, 29]
  /-- The tag byte that marks an inline include reference. -/
  inlineTag : UInt8 := 8
  /-- Whether filenames may hold bytes 128 to 255, read by their code page 437 glyphs. -/
  extendedFilenames : Bool := false
deriving Repr, DecidableEq, Inhabited

end ListingMap
