import ListingMap.Path
import ListingMap.Include.Basic
import ListingMap.FileMap
import ListingMap.SourceMap.Basic

/-!
# Assembling a source map

Each file-map record places the lines `lineBegin` to `lineEnd` of one include at consecutive
debug lines starting at its source number. Assembly walks the records in table order:

* a record whose debug number names no include is `unresolvedRecord`;
* a record whose last line precedes its first is `invertedRange`;
* a record spanning more lines than the budget still allows is `implausibleRange`. The budget is
  `2^20` items per artifact, counted over the items placed so far;
* otherwise its lines are placed, until a debug line would pass the largest word: the rest of
  the record is dropped with one `debugLineOverflow`.

Of several includes with one debug number, the first is used. Every item names the artifact's
procedure: the filename of the main program, or, when there is none or it is empty, the stem of
the artifact's own path. The items are then built into a source map, whose diagnostics follow
those of the walk.
-/

namespace ListingMap

namespace Assembly

/-- The most items assembly places for one artifact. -/
def lineBudget : Nat := Nat.pow 2 20

/-- The number of debug lines a word can address. -/
def wordRange : Nat := Nat.pow 2 32

/-- The procedure every item of an artifact names. -/
def procName (rcode : String) (lines : ModuleLines) : String :=
  match lines.mainProgram with
  | some main => if main.sourceFilename.isEmpty then (Path.fileStem rcode).getD "" else main.sourceFilename
  | none => (Path.fileStem rcode).getD ""

/-- Places the lines of a record from `offset` on, `remaining` of them, after `placed`; stops
with a diagnostic at the first debug line past the largest word. -/
def placeLines (record : FileMapRecord) (path proc : String) (placed : Array SourceMapItem) :
    (offset remaining : Nat) → Array SourceMapItem × List Diagnostic
  | _, 0 => (placed, [])
  | offset, remaining + 1 =>
      let debugLine := record.sourceNum.toNat + offset
      let sourceLine := record.lineBegin.toNat + offset
      if debugLine < wordRange then
        placeLines record path proc
          (placed.push ⟨debugLine.toUInt32, sourceLine.toUInt32, path, proc⟩) (offset + 1) remaining
      else
        (placed, [.debugLineOverflow record.debugNum record.sourceNum sourceLine.toUInt32])

/-- Places one record after the items placed so far. -/
def placeRecord (lines : ModuleLines) (proc : String) (placed : Array SourceMapItem)
    (record : FileMapRecord) : Array SourceMapItem × List Diagnostic :=
  match lines.includes.find? (·.debugNum == record.debugNum.toUInt32) with
  | none => (placed, [.unresolvedRecord record.debugNum record.sourceNum])
  | some entry =>
      if record.lineEnd < record.lineBegin then
        (placed, [.invertedRange record.debugNum record.lineBegin record.lineEnd])
      else
        let span := record.lineEnd.toNat - record.lineBegin.toNat + 1
        if lineBudget - placed.size < span then
          (placed, [.implausibleRange record.debugNum record.lineBegin record.lineEnd])
        else
          placeLines record entry.sourceFilename proc placed 0 span

/-- Places every record in table order; the diagnostics are kept in the order raised. -/
def placeAll (lines : ModuleLines) (proc : String) (records : List FileMapRecord) :
    Array SourceMapItem × List Diagnostic :=
  let (placed, raised) := records.foldl
    (fun (placed, raised) record =>
      let (placed, more) := placeRecord lines proc placed record
      (placed, more.reverse ++ raised))
    (#[], [])
  (placed, raised.reverse)

end Assembly

/-- Assembles the source map of an artifact from its file map and include records. -/
def SourceMap.assemble (rcode : String) (fileMap : List FileMapRecord) (lines : ModuleLines) :
    Reported SourceMap :=
  let (placed, raised) := Assembly.placeAll lines (Assembly.procName rcode lines) fileMap
  let map := SourceMap.build rcode placed.toList
  ⟨map.value, raised ++ map.diagnostics⟩

end ListingMap
