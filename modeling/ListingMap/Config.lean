import ListingMap.Json.Reader
import ListingMap.Options

/-!
# Configuration

A configuration document holds the decode options under `decode`. Every member is optional:
a member left out keeps its default, each field of the decode options on its own. Records may
be written as objects or as arrays of their fields in order, unknown members are ignored, and
tag bytes must be in `0..255`.
-/

namespace ListingMap

/-- The settings a configuration document gives. -/
structure Config where
  /-- How artifacts are decoded. -/
  decode : DecodeOptions := {}
deriving Repr, DecidableEq, Inhabited

namespace DecodeOptions

/-- The fields of decode options read so far. -/
structure Draft where
  moduleLevelTags : Option (List UInt8) := none
  inlineTag : Option UInt8 := none
  extendedFilenames : Option Bool := none

/-- The largest byte. -/
def byteLimit : Nat := 255

/-- How decode options are read from a document. -/
def form : Json.RecordForm Draft DecodeOptions where
  name := "DecodeOptions"
  fields := ["module_level_tags", "inline_tag", "extended_filenames"]
  defaults := true
  empty := {}
  has draft
    | 0 => draft.moduleLevelTags.isSome
    | 1 => draft.inlineTag.isSome
    | _ => draft.extendedFilenames.isSome
  readField
    | 0, draft => do
        let tags ← Json.readList (Json.readNat byteLimit "u8")
        pure { draft with moduleLevelTags := some (tags.map Nat.toUInt8) }
    | 1, draft => do pure { draft with inlineTag := some (← Json.readNat byteLimit "u8").toUInt8 }
    | _, draft => do pure { draft with extendedFilenames := some (← Json.readBool) }
  finish draft :=
    let defaults : DecodeOptions := {}
    .ok {
      moduleLevelTags := draft.moduleLevelTags.getD defaults.moduleLevelTags
      inlineTag := draft.inlineTag.getD defaults.inlineTag
      extendedFilenames := draft.extendedFilenames.getD defaults.extendedFilenames }

/-- Reads decode options from the text of a document holding only them. -/
def ofJsonText (text : String) : Except Json.Error DecodeOptions :=
  Json.readDocument (Json.readRecord form) text

end DecodeOptions

namespace Config

/-- How a configuration is read from a document. -/
def form : Json.RecordForm (Option DecodeOptions) Config where
  name := "Config"
  fields := ["decode"]
  defaults := true
  empty := none
  has draft _ := draft.isSome
  readField _ _ := do pure (some (← Json.readRecord DecodeOptions.form))
  finish draft := .ok { decode := draft.getD {} }

/-- Reads a configuration document from its bytes. -/
def ofJsonBytes (input : ByteArray) : Except Json.Error Config :=
  Json.readDocumentBytes (Json.readRecord form) input

/-- Reads a configuration document from its text. -/
def ofJsonText (text : String) : Except Json.Error Config :=
  ofJsonBytes text.toUTF8

end Config

end ListingMap
