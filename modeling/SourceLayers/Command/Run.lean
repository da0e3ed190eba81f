/-
The command:

* `Notice`: a line for the reader of the command: a log line of some level, or an error;
* `Output`: the exit code, the printed text, and the notices that are shown;
* `CommandFault`: why a command could not be finished;
* `runOptions`: what the command does for given options;
* `runCommand`: the same for a command line. A line that is refused changes nothing.

Missing paths are reported first, then a vocabulary that cannot be loaded, then what is wrong with a
single file whose regions are wanted. Only a batch writes files.
-/
import SourceLayers.Batch.Report
import SourceLayers.Command.Arguments

namespace SourceLayers

/-- A line for the reader of the command. -/
inductive Notice where
  | debug (text : String)
  | info (text : String)
  | warning (text : String)
  | error (text : String)
  deriving DecidableEq, Repr

namespace Notice

/-- The text of a notice. -/
def render : Notice → String
  | .debug text => "DEBUG " ++ text
  | .info text => "INFO " ++ text
  | .warning text => "WARNING " ++ text
  | .error text => "Error: " ++ text

/-- Whether a notice is for those only who ask for more. -/
def isDebug : Notice → Bool
  | .debug _ => true
  | _ => false

end Notice

/-- What a command gives. A refused command line has the exit code 2. -/
structure Output where
  exit : Nat
  printed : String := ""
  notices : List Notice := []

/-- An output whose notices are those to be shown. -/
def Output.showing (output : Output) (verbose : Bool) : Output :=
  { output with notices := output.notices.filter fun notice => verbose || !notice.isDebug }

/-- The end of a command that failed, with the reason. -/
def Output.failed (notices : List Notice) (reason : String) : Output :=
  { exit := 1, notices := notices ++ [.error reason] }

/-! ### Notices -/

/-- What is told about the classification of a text. -/
def classificationNotices (runtimeMs : Nat) (result : Classification) : List Notice :=
  if result.parsed then
    let diagnostics := result.diagnostics
    (if 0 < diagnostics.parseErrorCount then
      [.debug ("parse produced " ++ toString diagnostics.parseErrorCount ++
        " error node(s); classifying recovered tree")]
    else []) ++
    [.debug ("classified " ++ toString result.textLength ++ " chars: " ++
      toString (diagnostics.candidateCount + diagnostics.commentCount) ++ " candidates, " ++
      toString result.regions.length ++ " regions in " ++ toString runtimeMs ++ " ms")]
  else []

/-- What is told about a batch: its classifications, the files it skipped, and its counts. -/
def batchNotices (runtimeMs : Nat) (report : BatchReport) : List Notice :=
  (report.records.flatMap fun record => classificationNotices runtimeMs record.result) ++
    (report.skipped.map fun (path, fault) =>
      .warning ("Skipped " ++ path.render ++ " (" ++ fault.reason ++ ")")) ++
    [.info ("Classified " ++ toString report.processedFiles ++ " file(s), " ++
      toString report.totalChars ++ " chars, " ++ toString report.totalRegions ++ " regions")]

/-! ### Printed values -/

/-- A value over lines, with a line feed at its end. -/
def printValue (value : Json) : String :=
  String.ofList (value.pretty ++ ['\n'])

/-- The short form of a report. -/
def summaryToJson (report : BatchReport) (reportOut : Option Path) : Json :=
  .obj
    [("processed_files", .nat report.processedFiles),
      ("skipped_files", .nat report.skipped.length),
      ("layer_coverage", coverageToJson report.coverage),
      ("covered_ratio", .decimal report.coveredRatio),
      ("sidecar_path", Json.ofOption (fun path => .str path.render) report.sidecar),
      ("report_out", Json.ofOption (fun path => .str path.render) reportOut)]

/-- The full form of a report, with the file that took it. -/
def fullReportToJson (report : BatchReport) (reportOut : Option Path) : Json :=
  .obj (report.fields ++ (reportOut.map fun path => ("report_out", Json.str path.render)).toList)

/-! ### The command -/

/-- Why a command could not be finished. -/
inductive CommandFault where
  | batch (fault : BatchFault)
  /-- An option was left without the value that it takes. -/
  | blankOption (option : Flag)
  deriving DecidableEq, Repr

/-- The wording of a fault. -/
def CommandFault.message : CommandFault → String
  | .batch fault => fault.message
  | .blankOption option => option.longName ++ " has no value"

/-- The work of a command on a tree. -/
abbrev CommandM := ExceptT CommandFault (StateM FileTree)

namespace CommandM

/-- A step of a batch as a part of a command. -/
def ofBatch {α : Type} (step : BatchM α) : CommandM α :=
  ExceptT.adapt CommandFault.batch step

/-- Something found on the tree, or the error that was met there. -/
def ofFile {α : Type} : Except FileError α → CommandM α
  | .ok value => return value
  | .error error => throw (.batch (.file error))

/-- The value of an option, if it is given. -/
def valueOf {α : Type} (option : Flag) : Setting α → CommandM (Option α)
  | .absent => return none
  | .blank => throw (.blankOption option)
  | .given value => return some value

end CommandM

/-- The vocabulary that a command uses, and what is told about it; or why it cannot be loaded. -/
def commandVocabulary (tree : FileTree) (path : Option Path) :
    Except String (Vocabulary × List Notice) :=
  match path with
  | none => .ok (.default, [])
  | some path =>
    match tree.loadVocabulary path with
    | .ok vocabulary =>
      .ok (vocabulary, [.info ("Loaded vocabulary override from " ++ path.render)])
    | .error fault =>
      .error ("cannot load vocabulary " ++ path.render ++ ": " ++ fault.message)

/-- The regions of a text, printed under its path. -/
def regionsOutput (env : Environment) (path : Path) (notices : List Notice)
    (result : Classification) : Output :=
  { exit := 0
    printed := printValue (.obj (("path", .str path.render) :: result.fields (some env.runtimeMs)))
    notices := notices ++ classificationNotices env.runtimeMs result ++
      [.info (path.render ++ ": " ++ toString result.regions.length ++ " regions")] }

/-- Prints the regions of a single file. -/
def runRegions (env : Environment) (options : Options) (vocabulary : Vocabulary)
    (notices : List Notice) : CommandM Output := do
  let tree ← get
  match options.paths with
  | [path] =>
    if ← CommandM.ofFile (tree.isFile path) then
      match tree.readText path with
      | .error fault =>
        return .failed notices ("cannot read " ++ path.render ++ ": " ++ fault.message)
      | .ok text =>
        match classify vocabulary env.parse text with
        | .error fault => throw (.batch (.offset fault))
        | .ok result => return regionsOutput env path notices result
    else return .failed notices "--regions takes exactly one file"
  | _ => return .failed notices "--regions takes exactly one file"

/-- The suffixes that a command looks for. -/
def commandSuffixes (options : Options) : CommandM (List String) :=
  if options.suffixes.isEmpty then return defaultSuffixes
  else
    match options.suffixes.mapM id with
    | some suffixes => return suffixes
    | none => throw (.blankOption .suffix)

/-- Stores the records of a report if that is wanted. -/
def storeSidecar (env : Environment) (options : Options) (report : BatchReport) :
    CommandM BatchReport := do
  match ← CommandM.valueOf .sidecarOut options.sidecarOut with
  | none => return report
  | some path => CommandM.ofBatch (storeRecords env report path options.overwriteSidecar)

/-- Stores a report if that is wanted, and gives the file that took it. -/
def storeReport (options : Options) (report : BatchReport) : CommandM (Option Path) := do
  match ← CommandM.valueOf .reportOut options.reportOut with
  | none => return none
  | some path =>
    CommandM.ofBatch (BatchM.ofStore (saveJson report.toJson path true))
    return some path

/-- Runs a batch, stores its records and its report if that is wanted, and prints it. A value that
an option lacks is missed only where it is used. -/
def runReport (env : Environment) (options : Options) (vocabulary : Vocabulary)
    (notices : List Notice) : CommandM Output := do
  let suffixes ← commandSuffixes options
  let limit ← CommandM.valueOf .limit options.limit
  let report ← CommandM.ofBatch
    (runBatch env { paths := options.paths, suffixes, vocabulary, limit })
  let report ← storeSidecar env options report
  let reportOut ← storeReport options report
  return {
    exit := 0
    printed := printValue
      (if options.json then fullReportToJson report reportOut else summaryToJson report reportOut)
    notices := notices ++ batchNotices env.runtimeMs report }

/-- What the command does for given options. -/
def runOptions (env : Environment) (options : Options) : CommandM Output := do
  let tree ← get
  let missing ← options.paths.filterM fun path => Bool.not <$> CommandM.ofFile (tree.isPresent path)
  if !missing.isEmpty then
    return .failed [] ("input path(s) not found: " ++ ", ".intercalate (missing.map Path.render))
  match commandVocabulary tree (← CommandM.valueOf .vocabulary options.vocabulary) with
  | .error reason => return .failed [] reason
  | .ok (vocabulary, notices) =>
    if options.regions then runRegions env options vocabulary notices
    else runReport env options vocabulary notices

/-- The usage of the command. -/
def usageText : String :=
  "usage: classify paths... [--suffix S] [--vocabulary FILE] [--limit N] [--regions] " ++
    "[--sidecar-out FILE] [--report-out FILE] [--overwrite-sidecar] [--json] [--verbose]\n"

/-- What the command does for a command line. -/
def runCommand (env : Environment) (arguments : List String) : CommandM Output :=
  match Options.parse arguments with
  | .error .usage => return { exit := 2 }
  | .error .help => return { exit := 0, printed := usageText }
  | .ok options => (Output.showing · options.verbose) <$> runOptions env options

end SourceLayers
