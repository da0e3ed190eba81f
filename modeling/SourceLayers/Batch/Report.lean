/-
The classification of many files:

* `Environment`: the parser, and the time that a classification is reported to take;
* `FileOutcome`: what became of one file: it was classified, or skipped because it could not be
  read;
* `classifyFiles`: the outcomes of a list of files;
* `BatchReport`: the outcomes with what they were asked for, and the counts over them;
* `reportBatch`: selects files and classifies them;
* `runBatch`: does so, and stores the records if a sidecar is wanted.

A file that cannot be read does not disturb the others.
-/
import SourceLayers.Batch.Selection
import SourceLayers.Classification
import SourceLayers.Digest.Sha256
import SourceLayers.FileTree.Load
import SourceLayers.FileTree.Store

namespace SourceLayers

/-- What classification takes from outside: the parser, and the time in milliseconds to report. -/
structure Environment where
  parse : List Char → Node
  runtimeMs : Nat := 0

/-- The classification of a file, with what identifies its text. -/
structure FileRecord where
  path : Path
  textSha256 : String
  result : Classification

/-- What became of a file. -/
inductive FileOutcome where
  | classified (record : FileRecord)
  | skipped (path : Path) (fault : ReadFault)

/-- What a batch is asked for. -/
structure BatchOptions where
  paths : List Path
  suffixes : List String := defaultSuffixes
  vocabulary : Vocabulary := .default
  /-- The number of files to look at; below zero there is no limit. -/
  limit : Option Int := none
  /-- The file that takes the records. -/
  sidecar : Option Path := none
  /-- Whether the records take the place of what that file holds. -/
  overwrite : Bool := false

/-- Why a batch could not be finished. -/
inductive BatchFault where
  | file (error : FileError)
  | offset (fault : OffsetFault)
  | write (fault : WriteFault)
  deriving DecidableEq, Repr

namespace BatchFault

/-- A fault in storing something, as a fault of the batch. -/
def ofStore : StoreFault → BatchFault
  | .file error => .file error
  | .write fault => .write fault

/-- The wording of a fault. -/
def message : BatchFault → String
  | .file error => error.message
  | .offset fault => "offset out of range: " ++ toString fault.offset
  | .write fault => fault.message

end BatchFault

/-! ### Outcomes -/

/-- Classifies a file. -/
def classifyFile (env : Environment) (vocabulary : Vocabulary) (tree : FileTree) (path : Path) :
    Except OffsetFault FileOutcome :=
  match tree.readText path with
  | .error fault => .ok (.skipped path fault)
  | .ok text =>
    (fun result => .classified ⟨path, Sha256.hexDigest (encodeUtf8 text), result⟩) <$>
      classify vocabulary env.parse text

/-- Classifies files, one after the other. -/
def classifyFiles (env : Environment) (vocabulary : Vocabulary) (tree : FileTree)
    (paths : List Path) : Except OffsetFault (List FileOutcome) :=
  paths.mapM (classifyFile env vocabulary tree)

/-- The first files up to a limit; below zero there is none. -/
def takeLimit (limit : Option Int) (paths : List Path) : List Path :=
  match limit with
  | some n => if 0 ≤ n then paths.take n.toNat else paths
  | none => paths

/-! ### Reports -/

/-- The outcomes of a batch. -/
structure BatchReport where
  inputs : List Path
  suffixes : List String
  outcomes : List FileOutcome
  /-- The file that took the records. -/
  sidecar : Option Path := none

namespace BatchReport

/-- The records of the classified files. -/
def records (report : BatchReport) : List FileRecord :=
  report.outcomes.filterMap fun
    | .classified record => some record
    | .skipped _ _ => none

/-- The files that could not be read. -/
def skipped (report : BatchReport) : List (Path × ReadFault) :=
  report.outcomes.filterMap fun
    | .classified _ => none
    | .skipped path fault => some (path, fault)

/-- The number of classified files. -/
def processedFiles (report : BatchReport) : Nat :=
  report.records.length

/-- The number of classified files with errors in their trees. -/
def parseErrorFiles (report : BatchReport) : Nat :=
  report.records.countP fun record => 0 < record.result.diagnostics.parseErrorCount

/-- The characters of the classified files. -/
def totalChars (report : BatchReport) : Nat :=
  total (fun record => record.result.textLength) report.records

/-- The regions of the classified files. -/
def totalRegions (report : BatchReport) : Nat :=
  total (fun record => record.result.regions.length) report.records

/-- The characters that a layer holds in the classified files. -/
def coverage (report : BatchReport) (layer : Layer) : Nat :=
  total (fun record => record.result.coverage layer) report.records

/-- The characters that some layer holds. -/
def coveredChars (report : BatchReport) : Nat :=
  total report.coverage Layer.all

/-- The part of the characters that some layer holds, to six places. -/
def coveredRatio (report : BatchReport) : Decimal :=
  Decimal.ratio report.coveredChars report.totalChars

end BatchReport

/-- The record of a file as a JSON value. -/
def FileRecord.toJson (record : FileRecord) (runtimeMs : Nat) : Json :=
  .obj
    (("path", .str record.path.render) :: ("text_sha256", .str record.textSha256) ::
      record.result.fields (some runtimeMs))

/-- A skipped file as a JSON value. -/
def skippedToJson (entry : Path × ReadFault) : Json :=
  .obj [("path", .str entry.1.render), ("reason", .str entry.2.reason)]

/-- The fields of a report. -/
def BatchReport.fields (report : BatchReport) : List (String × Json) :=
  [("inputs", .strings (report.inputs.map Path.render)),
    ("suffixes", .strings report.suffixes),
    ("processed_files", .nat report.processedFiles),
    ("skipped_files", .arr (report.skipped.map skippedToJson)),
    ("parse_error_files", .nat report.parseErrorFiles),
    ("total_chars", .nat report.totalChars),
    ("total_regions", .nat report.totalRegions),
    ("layer_coverage", coverageToJson report.coverage),
    ("covered_ratio", .decimal report.coveredRatio),
    ("sidecar_records", .nat report.processedFiles)] ++
    (report.sidecar.map fun path => ("sidecar_path", Json.str path.render)).toList

/-- A report as a JSON value. -/
def BatchReport.toJson (report : BatchReport) : Json :=
  .obj report.fields

/-! ### Runs -/

/-- Changes of a tree in the course of a batch. -/
abbrev BatchM := ExceptT BatchFault (StateM FileTree)

/-- A change of a tree as a part of a batch. -/
def BatchM.ofStore {α : Type} (change : StoreM α) : BatchM α :=
  ExceptT.adapt BatchFault.ofStore change

/-- The report of a batch, before anything is stored. -/
def reportBatch (env : Environment) (options : BatchOptions) (tree : FileTree) :
    Except BatchFault BatchReport :=
  match tree.selectFiles options.suffixes options.paths with
  | .error error => .error (.file error)
  | .ok files =>
    match classifyFiles env options.vocabulary tree (takeLimit options.limit files) with
    | .error fault => .error (.offset fault)
    | .ok outcomes => .ok { inputs := options.paths, suffixes := options.suffixes, outcomes }

/-- Stores the records of a report in a sidecar, after those of earlier runs or in their place. -/
def storeRecords (env : Environment) (report : BatchReport) (sidecar : Path) (overwrite : Bool) :
    BatchM BatchReport := do
  BatchM.ofStore
    (saveLines (report.records.map fun record => record.toJson env.runtimeMs) sidecar (!overwrite))
  return { report with sidecar := some sidecar }

/-- Runs a batch. The records are stored last. -/
def runBatch (env : Environment) (options : BatchOptions) : BatchM BatchReport := do
  match reportBatch env options (← get) with
  | .error fault => throw fault
  | .ok report =>
    match options.sidecar with
    | none => return report
    | some path => storeRecords env report path options.overwrite

end SourceLayers
