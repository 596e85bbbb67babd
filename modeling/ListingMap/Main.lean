import ListingMap.Config
import ListingMap.Report
import ListingMap.SourceMap.Assemble

/-!
# Command line

`listingmap [--config FILE] COMMAND` decodes an artifact and prints JSON:

* `dump ARTIFACT`: the assembled source map and every diagnostic;
* `includes ARTIFACT`: the include records and the decoding diagnostics;
* `to-listing ARTIFACT SOURCE_PATH LINE [--column N]`: the listing position of a source line;
* `to-source ARTIFACT LINE [--column N]`: the source position of a listing line;
* `version`: the version.

A configuration file, when given, supplies the decode options. Failures are printed to standard
error and end the program with status 1.
-/

namespace ListingMap.Cli

/-- The version this command line reports. -/
def version : String := "0.1.0"

/-- The command line split into options and positional arguments. -/
structure Arguments where
  config : Option String := none
  column : Option String := none
  positional : List String := []

/-- Splits the arguments into the options this command line knows and the rest. -/
def Arguments.parse : List String → Arguments
  | [] => {}
  | "--config" :: value :: rest | "-c" :: value :: rest =>
      { Arguments.parse rest with config := some value }
  | "--column" :: value :: rest => { Arguments.parse rest with column := some value }
  | argument :: rest =>
      if argument.startsWith "--config=" then
        { Arguments.parse rest with config := some (argument.drop 9).toString }
      else if argument.startsWith "--column=" then
        { Arguments.parse rest with column := some (argument.drop 9).toString }
      else
        let parsed := Arguments.parse rest
        { parsed with positional := argument :: parsed.positional }

/-- Reads a 32-bit word from an argument. -/
def word (text : String) : Except String UInt32 :=
  match text.toNat? with
  | some n => if n < Nat.pow 2 32 then .ok n.toUInt32 else .error s!"invalid value {text}: number too large"
  | none => .error s!"invalid value {text}: invalid digit found in string"

/-- Reads the decode options from the configuration file, if one is given. -/
def loadOptions (config : Option String) : ExceptT String IO DecodeOptions := do
  match config with
  | none => pure {}
  | some path =>
      let bytes ← tryCatch (IO.FS.readBinFile path) fun _ =>
        throw s!"unable to read config: {path}"
      match Config.ofJsonBytes bytes with
      | .ok loaded => pure loaded.decode
      | .error error => throw s!"invalid config: {path}\n\nCaused by:\n    {error.message}"

/-- Decodes the artifact at `path`. -/
def decode (options : DecodeOptions) (path : String) : ExceptT String IO (Reported DebugTables) := do
  let bytes ← tryCatch (IO.FS.readBinFile path) fun _ =>
    throw s!"unable to decode r-code: {path}"
  match DebugTables.decode options bytes.toList with
  | .ok tables => pure tables
  | .error error => throw s!"unable to decode r-code: {path}\n\nCaused by:\n    {error.message}"

/-- The source map of the artifact at `path`, with every diagnostic. -/
def sourceMap (options : DecodeOptions) (path : String) : ExceptT String IO (Reported SourceMap) := do
  let tables ← decode options path
  let map := SourceMap.assemble path tables.value.fileMap tables.value.moduleLines
  pure ⟨map.value, tables.diagnostics ++ map.diagnostics⟩

/-- Runs one command and returns the document it prints. -/
def run (arguments : Arguments) : ExceptT String IO String := do
  let column ← match arguments.column with
    | none => pure 0
    | some text => ExceptT.mk (pure (word text))
  match arguments.positional with
  | ["version"] => pure version
  | ["dump", path] =>
      let map ← sourceMap (← loadOptions arguments.config) path
      pure (Report.withDiagnostics "source_map" map.value.toJson map.diagnostics).renderPretty
  | ["includes", path] =>
      let tables ← decode (← loadOptions arguments.config) path
      pure (Report.withDiagnostics "module_lines" tables.value.moduleLines.toJson
        tables.diagnostics).renderPretty
  | ["to-listing", path, sourcePath, line] =>
      let line ← ExceptT.mk (pure (word line))
      let map ← sourceMap (← loadOptions arguments.config) path
      match map.value.toListing sourcePath line column with
      | .ok position => pure position.toJson.renderPretty
      | .error error => throw error.message
  | ["to-source", path, line] =>
      let line ← ExceptT.mk (pure (word line))
      let map ← sourceMap (← loadOptions arguments.config) path
      match map.value.toSource line column with
      | .ok position => pure position.toJson.renderPretty
      | .error error => throw error.message
  | _ => throw "usage: listingmap [--config FILE] <dump|includes|to-listing|to-source|version> ..."

end ListingMap.Cli

open ListingMap in
/-- Runs the command line. -/
def main (arguments : List String) : IO UInt32 := do
  match ← (Cli.run (Cli.Arguments.parse arguments)).run with
  | .ok document =>
      IO.println document
      pure 0
  | .error message =>
      IO.eprintln s!"Error: {message}"
      pure 1
