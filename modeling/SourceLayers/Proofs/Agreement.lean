/-
Two ways to classify a file, by its regions alone and as a batch:

* `Json.without`, `Json.withoutTime`: a record without what only one of the two tells;
* `run_runBatch_file`: a batch over a single file has that file's outcome, and stores its record;
* `Options.AsksBatch`, `run_runReport_file`: the same from the command line.

Main statement: `modes_agree`, that both accept a file with the same record, or both reject it.
-/
import Mathlib.Tactic
import SourceLayers.Proofs.Command
import SourceLayers.Proofs.Selection
import SourceLayers.Proofs.Sidecar

namespace SourceLayers

/-! ### Records -/

namespace Json

/-- A value without the fields of a name. -/
def without (value : Json) (name : String) : Json :=
  match value with
  | .obj fields => .obj (fields.filter fun field => field.1 != name)
  | other => other

/-- A record without the time in its diagnostics. -/
def withoutTime (value : Json) : Json :=
  match value with
  | .obj fields =>
    .obj (fields.map fun field =>
      if field.1 = "diagnostics" then (field.1, field.2.without "runtime_ms") else field)
  | other => other

end Json

/-- The value that is printed for the regions of a file. -/
def regionsValue (path : Path) (result : Classification) (time : Nat) : Json :=
  .obj (("path", .str path.render) :: result.fields (some time))

lemma isPlain_regionsValue (path : Path) (result : Classification) (time : Nat) :
    (regionsValue path result time).IsPlain :=
  ⟨by simp [Classification.fields], trivial, result.isPlain_fields time⟩

/-- A stored record is what is printed for the regions, and the digest of the text. -/
lemma without_toJson (record : FileRecord) (time : Nat) :
    (record.toJson time).without "text_sha256" = regionsValue record.path record.result time := by
  simp only [FileRecord.toJson, Json.without, Classification.fields, regionsValue]
  congr 1

lemma withoutTime_regionsValue (path : Path) (result : Classification) (time other : Nat) :
    (regionsValue path result time).withoutTime = (regionsValue path result other).withoutTime := by
  simp only [regionsValue, Json.withoutTime, Classification.fields, List.map_cons, List.map_nil]
  congr 1

/-! ### A batch over one file -/

variable {env : Environment} {tree after : FileTree} {path sidecar : Path} {batch : BatchOptions}
  {options : Options} {outcome : FileOutcome} {vocabulary : Vocabulary}

/-- What becomes of a file depends on the parser only. -/
lemma classifyFile_congr {other : Environment} (h : other.parse = env.parse) :
    classifyFile other vocabulary tree path = classifyFile env vocabulary tree path := by
  rw [classifyFile, classifyFile, h]

/-- The report of a batch over one file. -/
def reportOf (path : Path) (suffixes : List String) (outcome : FileOutcome) : BatchReport :=
  { inputs := [path], suffixes, outcomes := [outcome] }

lemma reportBatch_file (hfile : tree.isFile path = .ok true) (hpaths : batch.paths = [path])
    (hlimit : batch.limit = none)
    (houtcome : classifyFile env batch.vocabulary tree path = .ok outcome) :
    reportBatch env batch tree = .ok (reportOf path batch.suffixes outcome) := by
  refine reportBatch_eq_ok_iff.mpr ⟨[path], [outcome], ?_, ?_, ?_⟩
  · rw [hpaths, FileTree.selectFiles_file hfile]
  · rw [hlimit]
    exact mapM_eq_ok_iff.mpr (.cons houtcome .nil)
  · rw [hpaths]
    rfl

/-- A batch over one file stores the record of that file, if it has one. -/
lemma run_runBatch_file (hfile : tree.isFile path = .ok true) (hpaths : batch.paths = [path])
    (hlimit : batch.limit = none) (hsidecar : batch.sidecar = some sidecar)
    (houtcome : classifyFile env batch.vocabulary tree path = .ok outcome)
    (hsave : (saveLines ((reportOf path batch.suffixes outcome).values env) sidecar
      (!batch.overwrite)).run.run tree = (.ok (), after)) :
    (runBatch env batch).run.run tree =
      (.ok { reportOf path batch.suffixes outcome with sidecar := some sidecar }, after) := by
  rw [run_runBatch, reportBatch_file hfile hpaths hlimit houtcome, hsidecar]
  simp only [run_storeRecords, hsave]

/-- A command line that asks for a batch over one file, whose record is to be stored. -/
structure Options.AsksBatch (options : Options) (path sidecar : Path) (overwrite : Bool) :
    Prop where
  paths : options.paths = [path]
  regions : options.regions = false
  suffixes : ∀ suffix ∈ options.suffixes, suffix.isSome
  limit : options.limit = .absent
  sidecarOut : options.sidecarOut = .given sidecar
  overwriteSidecar : options.overwriteSidecar = overwrite
  reportOut : options.reportOut = .absent

lemma exists_commandSuffixes (h : ∀ suffix ∈ options.suffixes, suffix.isSome) (tree : FileTree) :
    ∃ suffixes, (commandSuffixes options).run.run tree = (.ok suffixes, tree) := by
  have hall : ∀ {settings : List (Option String)}, (∀ suffix ∈ settings, suffix.isSome) →
      ∃ suffixes, settings.mapM id = some suffixes := by
    intro settings hsettings
    induction settings with
    | nil => exact ⟨[], rfl⟩
    | cons first rest ih =>
        rw [List.forall_mem_cons] at hsettings
        obtain ⟨suffix, rfl⟩ := Option.isSome_iff_exists.mp hsettings.1
        obtain ⟨suffixes, hrest⟩ := ih hsettings.2
        exact ⟨suffix :: suffixes, by rw [List.mapM_cons, hrest]; rfl⟩
  obtain ⟨suffixes, hsuffixes⟩ := hall h
  rw [commandSuffixes, hsuffixes]
  split_ifs
  · exact ⟨_, rfl⟩
  · exact ⟨_, rfl⟩

/-- The command does what the batch does. -/
lemma run_runReport_file {overwrite : Bool} (hasks : options.AsksBatch path sidecar overwrite)
    (hfile : tree.isFile path = .ok true)
    (houtcome : classifyFile env vocabulary tree path = .ok outcome)
    (hsave : ∀ suffixes, (saveLines ((reportOf path suffixes outcome).values env) sidecar
      (!overwrite)).run.run tree = (.ok (), after)) (notices : List Notice) :
    ∃ output, (runReport env options vocabulary notices).run.run tree = (.ok output, after) := by
  obtain ⟨suffixes, hsuffixes⟩ := exists_commandSuffixes hasks.suffixes tree
  have hbare : reportBatch env { paths := options.paths, suffixes, vocabulary, limit := none }
      tree = .ok (reportOf path suffixes outcome) :=
    reportBatch_file hfile hasks.paths rfl houtcome
  have hbatch : (CommandM.ofBatch (runBatch env
      { paths := options.paths, suffixes, vocabulary, limit := none })).run.run tree =
      (.ok (reportOf path suffixes outcome), tree) := by
    rw [CommandM.ofBatch, run_adapt, run_runBatch, hbare]
    rfl
  have hstored : (storeSidecar env options (reportOf path suffixes outcome)).run.run tree =
      (.ok { reportOf path suffixes outcome with sidecar := some sidecar }, after) := by
    rw [storeSidecar, hasks.sidecarOut, run_bind]
    simp only [CommandM.valueOf, run_pure, CommandM.ofBatch, run_adapt, run_storeRecords,
      hasks.overwriteSidecar, hsave suffixes]
    rfl
  have hreport : ∀ report, (storeReport options report).run.run after = (.ok none, after) := by
    intro report
    rw [storeReport, hasks.reportOut]
    rfl
  rw [runReport, run_bind, hsuffixes]
  simp only
  rw [run_bind, hasks.limit]
  simp only [CommandM.valueOf, run_pure]
  rw [run_bind, hbatch]
  simp only
  rw [run_bind, hstored]
  simp only
  rw [run_bind, hreport]
  exact ⟨_, rfl⟩

/-! ### Both ways -/

lemma found_of_isFile (hpaths : options.paths = [path]) (hfile : tree.isFile path = .ok true) :
    ∀ path ∈ options.paths, tree.isPresent path = .ok true := by
  rw [hpaths, List.forall_mem_singleton]
  exact FileTree.isPresent_of_isFile hfile

/-- What the regions of a file come to from the command line. -/
lemma run_regions_file {arguments : List String}
    (harguments : Options.parse arguments = .ok options) (hpaths : options.paths = [path])
    (hregions : options.regions = true)
    (huses : options.Uses tree vocabulary) (hfile : tree.isFile path = .ok true)
    (houtcome : classifyFile env vocabulary tree path = .ok outcome) :
    ∃ output, (runCommand env arguments).run.run tree = (.ok output, tree) ∧
      (∀ record, outcome = .classified record → output.exit = 0 ∧
        Json.parse? output.printed.toList = some (regionsValue path record.result env.runtimeMs)) ∧
      ∀ fault, outcome = .skipped path fault → output.exit = 1 ∧ output.printed = "" := by
  obtain ⟨notices, hrun⟩ := huses.run_runOptions env (found_of_isFile hpaths hfile)
  rw [hregions, if_pos rfl, run_runRegions_file hpaths hfile] at hrun
  rw [run_runCommand harguments, hrun]
  rcases classifyFile_eq_ok_iff.mp houtcome with ⟨text, result, hread, hresult, rfl⟩ |
    ⟨fault, hread, rfl⟩
  · simp only [hread, hresult]
    refine ⟨_, rfl, ?_, fun _ h => by cases h⟩
    rintro _ ⟨⟩
    refine ⟨rfl, ?_⟩
    have hprinted :
        ((regionsOutput env path notices result).showing options.verbose).printed.toList =
          (regionsValue path result env.runtimeMs).pretty ++ ['\n'] :=
      String.toList_ofList
    rw [hprinted]
    exact Json.parse?_pretty (isPlain_regionsValue path result env.runtimeMs)
  · simp only [hread]
    exact ⟨_, rfl, fun _ h => (by cases h), fun _ _ => ⟨rfl, rfl⟩⟩

/-- The record of a file can be written if its counts fit. -/
lemma writeFault?_values
    (hfits : ∀ text result, tree.readText path = .ok text →
      classify vocabulary env.parse text = .ok result → result.Fits)
    (houtcome : classifyFile env vocabulary tree path = .ok outcome)
    (htime : env.runtimeMs < 2 ^ 64) (suffixes : List String) :
    ∀ value ∈ (reportOf path suffixes outcome).values env,
      value.writeFault? Json.maxWrittenDepth = none := by
  rcases classifyFile_eq_ok_iff.mp houtcome with ⟨text, result, hread, hresult, rfl⟩ |
    ⟨fault, -, rfl⟩
  · intro value hvalue
    rw [List.mem_singleton.mp hvalue]
    exact FileRecord.writeFault?_toJson hresult (hfits text result hread hresult) htime
  · exact fun value hvalue => absurd hvalue List.not_mem_nil

/-- A record that was stored in a new file is loaded from there. -/
lemma loadLines?_of_saveLines {record : FileRecord} {time : Nat} {keep : Bool}
    (hfresh : tree.fileAt? sidecar.place = none)
    (h : (saveLines [record.toJson time] sidecar keep).run.run tree = (.ok (), after)) :
    (after.fileAt? sidecar.place).bind Json.loadLines? = some [record.toJson time] := by
  rw [fileAt?_saveLines h, if_neg (by simp), keptOctets, hfresh, Option.getD_none, ite_self,
    List.nil_append, Option.bind_some]
  refine loadLines?_linesOctets fun value hvalue => ?_
  rw [List.mem_singleton.mp hvalue]
  exact ⟨record.isPlain_toJson time, writeFault?_of_saveLines h _ List.mem_cons_self⟩

/-- Without a record a new file stays empty, or is not made. -/
lemma getD_fileAt?_of_saveLines {keep : Bool} (hfresh : tree.fileAt? sidecar.place = none)
    (h : (saveLines [] sidecar keep).run.run tree = (.ok (), after)) :
    (after.fileAt? sidecar.place).getD [] = [] := by
  rw [fileAt?_saveLines h, keptOctets, hfresh]
  cases keep <;> rfl

/-- **Both ways to classify a file agree.** For every file of a tree, whatever its suffix and
octets, and every command line that asks for its regions, with or without a vocabulary: a batch over
that file with the same vocabulary and a sidecar that is not there yet accepts the file exactly if
the command does, and that is if its text can be decoded. If both accept it, the sidecar holds a
single record, which is what was printed together with the digest of the text, the times aside. If
both reject it, the exit code is one and nothing is printed, while the batch skips this file and
stores nothing. A command line that asks for the batch leaves the same tree. A vocabulary that
cannot be loaded ends both with the exit code one. Times and counts are to fit in 64 bits. -/
theorem modes_agree (env : Environment) (hparse : ∀ text, OnBoundaries text (env.parse text))
    {tree : FileTree} {path : Path} (hfile : tree.isFile path = .ok true) {arguments : List String}
    {options : Options} (harguments : Options.parse arguments = .ok options)
    (hpaths : options.paths = [path]) (hregions : options.regions = true) :
    (∀ vocabulary, options.Uses tree vocabulary →
      (∀ text result, tree.readText path = .ok text →
        classify vocabulary env.parse text = .ok result → result.Fits) →
      ∀ (other : Environment) (batch : BatchOptions) (sidecar : Path), other.parse = env.parse →
        other.runtimeMs < 2 ^ 64 → batch.paths = [path] → batch.vocabulary = vocabulary →
        batch.limit = none → batch.sidecar = some sidecar → tree.Writable sidecar →
        tree.fileAt? sidecar.place = none →
        ∃ output report after,
          (runCommand env arguments).run.run tree = (.ok output, tree) ∧
          (runBatch other batch).run.run tree = (.ok report, after) ∧
          (tree.decodes path = true ∧ output.exit = 0 ∧ report.skipped = [] ∧
              (∃ printed record, Json.parse? output.printed.toList = some printed ∧
                (after.fileAt? sidecar.place).bind Json.loadLines? = some [record] ∧
                record.get? "path" = some (.str path.render) ∧
                printed.withoutTime = (record.without "text_sha256").withoutTime) ∨
            tree.decodes path = false ∧ output.exit = 1 ∧ output.printed = "" ∧
              report.skipped.map Prod.fst = [path] ∧ report.records = [] ∧
              (after.fileAt? sidecar.place).getD [] = []) ∧
          ∀ arguments options', Options.parse arguments = .ok options' →
            options'.vocabulary = options.vocabulary →
            options'.AsksBatch path sidecar batch.overwrite →
            ∃ output, (runCommand other arguments).run.run tree = (.ok output, after) ∧
              output.exit = 0) ∧
    (options.LacksVocabulary tree →
      ∀ arguments options', Options.parse arguments = .ok options' →
        options'.vocabulary = options.vocabulary → options'.paths = [path] →
        ∃ output, (runCommand env arguments).run.run tree = (.ok output, tree) ∧
          output.exit = 1 ∧ output.printed = "") := by
  refine ⟨?_, ?_⟩
  · intro vocabulary huses hfits other batch sidecar hother htime hbatch hvocabulary hlimit hsidecar
      hwritable hfresh
    obtain ⟨outcome, houtcome⟩ := exists_classifyFile hparse vocabulary tree path
    obtain ⟨output, hrun, haccepted, hrejected⟩ :=
      run_regions_file harguments hpaths hregions huses hfile houtcome
    rw [← hother] at hfits
    rw [← classifyFile_congr hother] at houtcome
    obtain ⟨after, hsave⟩ := exists_saveLines (!batch.overwrite) hwritable
      (writeFault?_values hfits houtcome htime batch.suffixes)
    refine ⟨output, _, after, hrun, run_runBatch_file hfile hbatch hlimit hsidecar
      (hvocabulary ▸ houtcome) hsave, ?_, fun arguments options' harguments' hsame hasks => ?_⟩
    · rcases classifyFile_eq_ok_iff.mp houtcome with ⟨text, result, hread, hresult, rfl⟩ |
        ⟨fault, hread, rfl⟩
      · obtain ⟨hexit, hprinted⟩ := haccepted _ rfl
        refine Or.inl ⟨FileTree.decodes_iff.mpr ⟨text, hread⟩, hexit, rfl, _, _, hprinted,
          loadLines?_of_saveLines hfresh hsave, rfl, ?_⟩
        rw [without_toJson]
        exact withoutTime_regionsValue path result env.runtimeMs other.runtimeMs
      · obtain ⟨hexit, hprinted⟩ := hrejected fault rfl
        exact Or.inr ⟨FileTree.decodes_eq_false hread, hexit, hprinted, rfl, rfl,
          getD_fileAt?_of_saveLines hfresh hsave⟩
    · have huses' : options'.Uses tree vocabulary := by rwa [Options.Uses, hsame]
      obtain ⟨notices, hrun'⟩ := huses'.run_runOptions other (found_of_isFile hasks.paths hfile)
      obtain ⟨output', hreport⟩ :=
        run_runReport_file hasks hfile houtcome (fun _ => hsave) notices
      have hexit : output'.exit = 0 := exit_of_runReport hreport
      rw [run_runCommand harguments', hrun', if_neg (by simp [hasks.regions]), hreport]
      exact ⟨_, rfl, hexit⟩
  · intro hlacks arguments options' harguments' hsame hpaths'
    have hlacks' : options'.LacksVocabulary tree := by
      rwa [Options.LacksVocabulary, hsame]
    obtain ⟨reason, hrun⟩ := hlacks'.run_runOptions env (found_of_isFile hpaths' hfile)
    rw [run_runCommand harguments', hrun]
    exact ⟨_, rfl, rfl, rfl⟩

/-- A file whose text is a character of two octets. -/
def accentedPath : Path :=
  ⟨"", ["b", "c.jsx"]⟩

/-- The command prints for that file what the batch records, up to the digest and the time. -/
theorem modes_agree_accented :
    pairTree.isFile accentedPath = .ok true ∧
      ∃ output report after printed record,
        (runCommand bareEnvironment ["b/c.jsx", "--regions"]).run.run pairTree =
          (.ok output, pairTree) ∧
        (runBatch bareEnvironment { paths := [accentedPath], sidecar := some pairSidecar }).run.run
          pairTree = (.ok report, after) ∧
        output.exit = 0 ∧ Json.parse? output.printed.toList = some printed ∧
        (after.fileAt? pairSidecar.place).bind Json.loadLines? = some [record] ∧
        printed.withoutTime = (record.without "text_sha256").withoutTime := by
  have hfile : pairTree.isFile accentedPath = .ok true := by decide +kernel
  obtain ⟨options, harguments, hoptions⟩ := exists_of_any (show
    (Options.parse ["b/c.jsx", "--regions"]).toOption.any (fun options =>
      options.paths = [accentedPath] && options.regions && options.vocabulary = .absent) = true by
        decide +kernel)
  simp only [Bool.and_eq_true, decide_eq_true_eq] at hoptions
  obtain ⟨⟨hpaths, hregions⟩, hvocabulary⟩ := hoptions
  have hfits : ∀ text result, pairTree.readText accentedPath = .ok text →
      classify .default bareEnvironment.parse text = .ok result → result.Fits := by
    intro text result hread hresult
    obtain ⟨_, hread', htext⟩ := exists_of_any (show
      (pairTree.readText accentedPath).toOption.any (· = ['é']) = true by decide +kernel)
    obtain ⟨_, hresult', hcounts⟩ := exists_of_any (show
      (classify .default bareEnvironment.parse ['é']).toOption.any (fun result =>
        result.textLength ≤ 1 && result.diagnostics.candidateCount ≤ 1 &&
          result.diagnostics.commentCount ≤ 1 && result.diagnostics.parseErrorCount ≤ 1) = true by
            decide +kernel)
    rw [hread, Except.ok.injEq] at hread'
    rw [hread', of_decide_eq_true htext, hresult', Except.ok.injEq] at hresult
    subst hresult
    simp only [Bool.and_eq_true, decide_eq_true_eq] at hcounts
    obtain ⟨⟨⟨hlength, hcandidates⟩, hcomments⟩, herrors⟩ := hcounts
    exact ⟨by omega, by omega, by omega, by omega⟩
  obtain ⟨output, report, after, hrun, hbatch, hagree, -⟩ :=
    (modes_agree bareEnvironment onBoundaries_bareEnvironment hfile harguments hpaths hregions).1
      .default (Or.inl ⟨hvocabulary, rfl⟩) hfits bareEnvironment
      { paths := [accentedPath], sidecar := some pairSidecar } pairSidecar rfl (by decide) rfl rfl
      rfl rfl (by decide +kernel) (by decide +kernel)
  rcases hagree with ⟨-, hexit, -, printed, record, hprinted, hloaded, -, hsame⟩ | ⟨hdecodes, -⟩
  · exact ⟨hfile, output, report, after, printed, record, hrun, hbatch, hexit, hprinted, hloaded,
      hsame⟩
  · have hother : pairTree.decodes accentedPath = true := by decide +kernel
    rw [hother] at hdecodes
    cases hdecodes

end SourceLayers
