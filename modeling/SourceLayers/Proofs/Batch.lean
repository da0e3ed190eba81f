/-
What a batch gives:

* `Classification.coverage_le_textLength`: layers hold no more characters than a text has;
* `FileRecord.isPlain_toJson`: the record of a file is read back as it was written;
* `Classification.Fits`, `FileRecord.writeFault?_toJson`: a record whose counts fit in 64 bits can
  be written;
* `FileTree.decodes`: a file is there and its octets are UTF-8;
* `classifyFile_eq_ok_iff`, `exists_classifyFile`: every file has an outcome of its own;
* `run_runBatch`, `run_storeRecords`: a run is its report, and the records stored after that;
* `exists_runBatch`: it comes to its end where the sidecar can be written;
* `changesOnly_storeRecords`: it changes no file but the sidecar.
-/
import Mathlib.Tactic
import SourceLayers.Batch.Report
import SourceLayers.Proofs.Classification
import SourceLayers.Proofs.JsonText
import SourceLayers.Proofs.Store

namespace SourceLayers

/-! ### Counts -/

/-- Regions in order between two offsets are no longer than what lies between these. -/
lemma total_length_le {regions : List Region} {low high : Nat}
    (hchain : regions.IsChain Region.MayPrecede) (hlow : ∀ region ∈ regions, low ≤ region.start)
    (hhigh : ∀ region ∈ regions, region.stop ≤ high) (hle : low ≤ high) :
    low + total (fun region => region.length) regions ≤ high := by
  induction regions generalizing low with
  | nil => exact hle
  | cons first rest ih =>
      rw [List.forall_mem_cons] at hlow hhigh
      have hrest := ih hchain.tail (stop_le_start_of_isChain hchain) hhigh.2 hhigh.1
      have hlength : first.length = first.stop - first.start := rfl
      have hfirst := first.start_lt_stop
      rw [total_cons, hlength]
      omega

namespace Classification

variable {vocabulary : Vocabulary} {parse : List Char → Node} {text : List Char}
  {result : Classification} {time : Nat}

/-- The length of a classification is that of its text. -/
lemma textLength_eq (h : classify vocabulary parse text = .ok result) :
    result.textLength = text.length := by
  cases hblank : isBlankText text with
  | true =>
      rw [classify_of_blank hblank] at h
      cases h
      rfl
  | false =>
      rw [classify, hblank] at h
      obtain ⟨document, hdocument, h⟩ := except_bind_eq_ok.mp h
      obtain ⟨root, -, rfl⟩ := Document.ofTree_eq_ok_iff.mp hdocument
      obtain ⟨trace, -, h⟩ := except_bind_eq_ok.mp h
      cases h
      rfl

/-- The regions of a classification stand in order. -/
lemma isChain_regions (h : classify vocabulary parse text = .ok result) :
    result.regions.IsChain Region.MayPrecede := by
  cases hblank : isBlankText text with
  | true =>
      rw [classify_of_blank hblank] at h
      cases h
      exact .nil
  | false =>
      obtain ⟨document, trace, -, -, hregions⟩ := walk_of_classify hblank h
      rw [hregions]
      exact (isPartition_resolve _ _).chain

/-- Together the layers hold no more characters than the text has. -/
lemma coverage_le_textLength (h : classify vocabulary parse text = .ok result) :
    total result.coverage Layer.all ≤ result.textLength := by
  have hlengths := total_length_le (isChain_regions h) (fun _ _ => Nat.zero_le _)
    (stop_le_length_of_classify h) (Nat.zero_le _)
  rw [Nat.zero_add] at hlengths
  calc total result.coverage Layer.all
      = total (fun region => region.length) result.regions := total_coverage result.regions
    _ ≤ text.length := hlengths
    _ = result.textLength := (textLength_eq h).symm

/-! ### Records as values -/

/-- The values in the fields of a classification have no fractions and no repeated names. -/
lemma isPlain_fields (result : Classification) (time : Nat) :
    Json.IsPlainFields (result.fields (some time)) := by
  have hregions : Json.IsPlainItems (result.regions.map Region.toJson) := by
    rw [Json.isPlainItems_iff]
    intro item hitem
    obtain ⟨region, -, rfl⟩ := List.mem_map.mp hitem
    exact ⟨by simp, trivial, trivial, trivial, trivial⟩
  have hcoverage : Json.IsPlain (coverageToJson result.coverage) :=
    ⟨by simp [Layer.all, Layer.name], trivial, trivial, trivial, trivial, trivial⟩
  have hnames : Json.IsPlain (Json.strings result.diagnostics.enumNames.toList) := by
    rw [Json.strings, Json.IsPlain, Json.isPlainItems_iff]
    intro item hitem
    obtain ⟨name, -, rfl⟩ := List.mem_map.mp hitem
    trivial
  have hdiagnostics : Json.IsPlain (result.diagnostics.toJson (some time)) :=
    ⟨by simp, trivial, trivial, hnames, trivial, trivial, trivial⟩
  exact ⟨trivial, hregions, hcoverage, hdiagnostics, trivial⟩

/-- The counts of a classification fit in 64 bits. -/
structure Fits (result : Classification) : Prop where
  textLength : result.textLength < 2 ^ 64
  candidates : result.diagnostics.candidateCount < 2 ^ 64
  comments : result.diagnostics.commentCount < 2 ^ 64
  parseErrors : result.diagnostics.parseErrorCount < 2 ^ 64

/-- The fields of a classification can be written if its counts fit: those that are not counted
there are limited by the length of the text. -/
lemma Fits.writeFault?_fields (hfits : result.Fits)
    (h : classify vocabulary parse text = .ok result) (htime : time < 2 ^ 64) (levels : Nat) :
    ∀ field ∈ result.fields (some time), field.2.writeFault? (levels + 2) = none := by
  have hregions : ∀ region ∈ result.regions,
      (Region.toJson region).writeFault? (levels + 1) = none := by
    intro region hregion
    have hstop := stop_le_length_of_classify h region hregion
    rw [← textLength_eq h] at hstop
    have hstart := region.start_lt_stop
    have hlength := hfits.textLength
    rw [Region.toJson, Json.writeFault?, if_neg (Nat.succ_ne_zero levels),
      Json.writeFaultFields?_eq_none_iff]
    simp only [List.forall_mem_cons]
    exact ⟨Json.writeFault?_nat _ (by omega), Json.writeFault?_nat _ (by omega), rfl, by simp⟩
  have hcoverage : (coverageToJson result.coverage).writeFault? (levels + 2) = none := by
    have hle := (coverage_le_textLength h).trans_lt hfits.textLength
    simp only [Layer.all, total_cons, total_nil] at hle
    rw [coverageToJson, Json.writeFault?, if_neg (Nat.succ_ne_zero _),
      Json.writeFaultFields?_eq_none_iff]
    simp only [Layer.all, List.map_cons, List.map_nil, List.forall_mem_cons]
    exact ⟨Json.writeFault?_nat _ (by omega), Json.writeFault?_nat _ (by omega),
      Json.writeFault?_nat _ (by omega), Json.writeFault?_nat _ (by omega), by simp⟩
  have hnames : (Json.strings result.diagnostics.enumNames.toList).writeFault? (levels + 1) =
      none := by
    rw [Json.strings, Json.writeFault?, if_neg (Nat.succ_ne_zero levels),
      Json.writeFaultItems?_eq_none_iff]
    intro item hitem
    obtain ⟨name, -, rfl⟩ := List.mem_map.mp hitem
    rfl
  have hdiagnostics : (result.diagnostics.toJson (some time)).writeFault? (levels + 2) = none := by
    rw [Diagnostics.toJson, Json.writeFault?, if_neg (Nat.succ_ne_zero _),
      Json.writeFaultFields?_eq_none_iff]
    simp only [Option.map_some, Option.toList_some, List.cons_append, List.nil_append,
      List.forall_mem_cons]
    exact ⟨Json.writeFault?_nat _ hfits.candidates, Json.writeFault?_nat _ hfits.comments, hnames,
      Json.writeFault?_nat _ hfits.parseErrors, Json.writeFault?_nat _ htime, by simp⟩
  simp only [fields, List.forall_mem_cons]
  refine ⟨Json.writeFault?_nat _ hfits.textLength, ?_, hcoverage, hdiagnostics, by simp⟩
  rw [Json.writeFault?, if_neg (Nat.succ_ne_zero _), Json.writeFaultItems?_eq_none_iff]
  intro item hitem
  obtain ⟨region, hregion, rfl⟩ := List.mem_map.mp hitem
  exact hregions region hregion

end Classification

namespace FileRecord

lemma isPlain_toJson (record : FileRecord) (time : Nat) : (record.toJson time).IsPlain :=
  ⟨by simp [Classification.fields], trivial, trivial, record.result.isPlain_fields time⟩

/-- A record can be written if its counts fit. -/
lemma writeFault?_toJson {vocabulary : Vocabulary} {parse : List Char → Node} {text : List Char}
    {record : FileRecord} (h : classify vocabulary parse text = .ok record.result)
    (hfits : record.result.Fits) {time : Nat} (htime : time < 2 ^ 64) :
    (record.toJson time).writeFault? Json.maxWrittenDepth = none := by
  rw [toJson, Json.writeFault?, if_neg (by decide), Json.writeFaultFields?_eq_none_iff]
  simp only [List.forall_mem_cons]
  exact ⟨rfl, rfl, hfits.writeFault?_fields h htime 251⟩

end FileRecord

/-! ### Outcomes -/

/-- Whether a file can be read, and its octets are UTF-8. -/
def FileTree.decodes (tree : FileTree) (path : Path) : Bool :=
  match tree.read path with
  | .ok octets => (decodeUtf8 octets).isOk
  | .error _ => false

lemma FileTree.decodes_iff {tree : FileTree} {path : Path} :
    tree.decodes path = true ↔ ∃ text, tree.readText path = .ok text := by
  rw [decodes, readText]
  cases tree.read path with
  | error error => simp
  | ok octets =>
      simp only
      cases decodeUtf8 octets <;> simp [Except.isOk, Except.toBool]

lemma FileTree.decodes_eq_false {tree : FileTree} {path : Path} {fault : ReadFault}
    (h : tree.readText path = .error fault) : tree.decodes path = false := by
  rw [← Bool.not_eq_true, decodes_iff, h]
  rintro ⟨text, htext⟩
  cases htext

variable {env : Environment} {options : BatchOptions} {vocabulary : Vocabulary} {tree : FileTree}
  {path : Path} {report : BatchReport}

/-- What may become of a file: its text is classified, or cannot be read. -/
lemma classifyFile_eq_ok_iff {outcome : FileOutcome} :
    classifyFile env vocabulary tree path = .ok outcome ↔
      (∃ text result, tree.readText path = .ok text ∧
        classify vocabulary env.parse text = .ok result ∧
        outcome = .classified ⟨path, Sha256.hexDigest (encodeUtf8 text), result⟩) ∨
      ∃ fault, tree.readText path = .error fault ∧ outcome = .skipped path fault := by
  rw [classifyFile]
  cases tree.readText path with
  | error fault => simp [eq_comm]
  | ok text =>
      simp only [except_map_eq_ok]
      simp [eq_comm]

/-- With a parser whose trees lie on the boundaries of their texts, every file has an outcome. -/
lemma exists_classifyFile (hparse : ∀ text, OnBoundaries text (env.parse text))
    (vocabulary : Vocabulary) (tree : FileTree) (path : Path) :
    ∃ outcome, classifyFile env vocabulary tree path = .ok outcome := by
  cases hread : tree.readText path with
  | error fault => exact ⟨_, classifyFile_eq_ok_iff.mpr (.inr ⟨fault, hread, rfl⟩)⟩
  | ok text =>
      obtain ⟨-, -, result, -, -, hresult⟩ :=
        exists_run vocabulary NameSet.empty env.parse (hparse text)
      exact ⟨_, classifyFile_eq_ok_iff.mpr (.inl ⟨text, result, hread, hresult, rfl⟩)⟩

lemma exists_classifyFiles (hparse : ∀ text, OnBoundaries text (env.parse text))
    (vocabulary : Vocabulary) (tree : FileTree) (paths : List Path) :
    ∃ outcomes, classifyFiles env vocabulary tree paths = .ok outcomes := by
  induction paths with
  | nil => exact ⟨[], rfl⟩
  | cons path rest ih =>
      obtain ⟨outcome, houtcome⟩ := exists_classifyFile hparse vocabulary tree path
      obtain ⟨outcomes, houtcomes⟩ := ih
      exact ⟨outcome :: outcomes, mapM_eq_ok_iff.mpr (.cons houtcome (mapM_eq_ok_iff.mp houtcomes))⟩

/-! ### Runs -/

lemma reportBatch_eq_ok_iff :
    reportBatch env options tree = .ok report ↔
      ∃ files outcomes, tree.selectFiles options.suffixes options.paths = .ok files ∧
        classifyFiles env options.vocabulary tree (takeLimit options.limit files) = .ok outcomes ∧
        report = { inputs := options.paths, suffixes := options.suffixes, outcomes } := by
  rw [reportBatch]
  cases tree.selectFiles options.suffixes options.paths with
  | error error => simp
  | ok files =>
      simp only
      cases hfiles : classifyFiles env options.vocabulary tree (takeLimit options.limit files) with
      | error fault => simp [hfiles]
      | ok outcomes => simp [hfiles, eq_comm]

/-- A report holds the outcomes of the selected files, and what was asked for. -/
lemma outcomes_of_reportBatch {files : List Path}
    (hreport : reportBatch env options tree = .ok report)
    (hfiles : tree.selectFiles options.suffixes options.paths = .ok files) :
    classifyFiles env options.vocabulary tree (takeLimit options.limit files) =
        .ok report.outcomes ∧
      report.inputs = options.paths ∧ report.suffixes = options.suffixes ∧
      report.sidecar = none := by
  obtain ⟨found, outcomes, hfound, houtcomes, rfl⟩ := reportBatch_eq_ok_iff.mp hreport
  rw [hfiles, Except.ok.injEq] at hfound
  subst hfound
  exact ⟨houtcomes, rfl, rfl, rfl⟩

/-- Where files can be selected, there is a report. -/
lemma exists_reportBatch (hparse : ∀ text, OnBoundaries text (env.parse text)) {files : List Path}
    (hfiles : tree.selectFiles options.suffixes options.paths = .ok files) :
    ∃ report, reportBatch env options tree = .ok report := by
  obtain ⟨outcomes, houtcomes⟩ :=
    exists_classifyFiles hparse options.vocabulary tree (takeLimit options.limit files)
  exact ⟨_, reportBatch_eq_ok_iff.mpr ⟨files, outcomes, hfiles, houtcomes, rfl⟩⟩

lemma BatchReport.mem_records {record : FileRecord} :
    record ∈ report.records ↔ .classified record ∈ report.outcomes := by
  rw [records, List.mem_filterMap]
  constructor
  · rintro ⟨outcome, houtcome, hrecord⟩
    cases outcome with
    | skipped path fault => cases hrecord
    | classified other =>
        cases hrecord
        exact houtcome
  · exact fun houtcome => ⟨_, houtcome, rfl⟩

/-- Every record of a report is that of a text that was read and classified. -/
lemma classify_of_mem_records (h : reportBatch env options tree = .ok report) {record : FileRecord}
    (hrecord : record ∈ report.records) :
    ∃ text, tree.readText record.path = .ok text ∧
      classify options.vocabulary env.parse text = .ok record.result ∧
      record.textSha256 = Sha256.hexDigest (encodeUtf8 text) := by
  obtain ⟨files, outcomes, -, houtcomes, rfl⟩ := reportBatch_eq_ok_iff.mp h
  obtain ⟨path, -, hpath⟩ := (mem_iff_of_mapM houtcomes).mp (BatchReport.mem_records.mp hrecord)
  rcases classifyFile_eq_ok_iff.mp hpath with ⟨text, result, hread, hresult, heq⟩ | ⟨_, _, heq⟩
  · cases heq
    exact ⟨text, hread, hresult, rfl⟩
  · cases heq

/-- The records of a report as they are stored. -/
def BatchReport.values (report : BatchReport) (env : Environment) : List Json :=
  report.records.map fun record => record.toJson env.runtimeMs

/-- Storing the records of a report is storing their values. -/
lemma run_storeRecords (env : Environment) (report : BatchReport) (sidecar : Path)
    (overwrite : Bool) (tree : FileTree) :
    (storeRecords env report sidecar overwrite).run.run tree =
      match (saveLines (report.values env) sidecar (!overwrite)).run.run tree with
      | (.ok (), after) => (.ok { report with sidecar := some sidecar }, after)
      | (.error fault, after) => (.error (.ofStore fault), after) := by
  rw [storeRecords, run_bind, BatchM.ofStore, run_adapt, BatchReport.values]
  rcases (saveLines _ sidecar (!overwrite)).run.run tree with ⟨result, after⟩
  cases result <;> rfl

/-- A run makes its report, and then stores the records if a sidecar is wanted. -/
lemma run_runBatch (env : Environment) (options : BatchOptions) (tree : FileTree) :
    (runBatch env options).run.run tree =
      match reportBatch env options tree, options.sidecar with
      | .error fault, _ => (.error fault, tree)
      | .ok report, none => (.ok report, tree)
      | .ok report, some path =>
        (storeRecords env report path options.overwrite).run.run tree := by
  rw [runBatch, run_bind, run_get]
  simp only
  cases reportBatch env options tree with
  | error fault => rfl
  | ok report => cases options.sidecar <;> rfl

/-- A run comes to its end where its sidecar can be written and the counts of its records fit. -/
lemma exists_runBatch (hreport : reportBatch env options tree = .ok report)
    (hsidecar : options.sidecar = some path) (hpath : tree.Writable path)
    (hfits : ∀ record ∈ report.records, record.result.Fits) (htime : env.runtimeMs < 2 ^ 64) :
    ∃ after, (runBatch env options).run.run tree =
      (.ok { report with sidecar := some path }, after) := by
  have hvalues : ∀ value ∈ report.values env,
      value.writeFault? Json.maxWrittenDepth = none := by
    intro value hvalue
    obtain ⟨record, hrecord, rfl⟩ := List.mem_map.mp hvalue
    obtain ⟨text, -, hresult, -⟩ := classify_of_mem_records hreport hrecord
    exact FileRecord.writeFault?_toJson hresult (hfits record hrecord) htime
  obtain ⟨after, hafter⟩ := exists_saveLines (!options.overwrite) hpath hvalues
  refine ⟨after, ?_⟩
  rw [run_runBatch, hreport, hsidecar]
  simp only [run_storeRecords, hafter]

/-- A run without a sidecar gives its report and changes nothing. -/
lemma run_runBatch_bare (hreport : reportBatch env options tree = .ok report)
    (hsidecar : options.sidecar = none) :
    (runBatch env options).run.run tree = (.ok report, tree) := by
  rw [run_runBatch, hreport, hsidecar]

/-- A run with a sidecar that succeeded gives its report, and stored the values of it. -/
lemma stored_of_runBatch {stored : BatchReport} {after : FileTree}
    (hreport : reportBatch env options tree = .ok report) (hsidecar : options.sidecar = some path)
    (h : (runBatch env options).run.run tree = (.ok stored, after)) :
    stored = { report with sidecar := some path } ∧
      (saveLines (report.values env) path (!options.overwrite)).run.run tree = (.ok (), after) := by
  rw [run_runBatch, hreport, hsidecar] at h
  simp only [run_storeRecords] at h
  rcases hsave : (saveLines (report.values env) path (!options.overwrite)).run.run tree with
    ⟨result, next⟩
  rw [hsave] at h
  cases result with
  | error fault => cases h
  | ok _ =>
      cases h
      exact ⟨rfl, rfl⟩

lemma changesOnly_storeRecords (env : Environment) (report : BatchReport) (sidecar : Path)
    (overwrite : Bool) :
    ChangesOnly [sidecar.place] (storeRecords env report sidecar overwrite) :=
  ((changesOnly_saveLines _ sidecar _).adapt _).bind fun _ => changesOnly_pure _

/-! ### A parser -/

/-- A parser that takes every text for a single statement. -/
def bareEnvironment : Environment :=
  { parse := fun text =>
      .construct "program" 0 (octetOffsetOf text text.length)
        [.construct "expression_statement" 0 (octetOffsetOf text text.length) []] }

lemma onBoundaries_bareEnvironment (text : List Char) :
    OnBoundaries text (bareEnvironment.parse text) := by
  have hbounds : IsBoundary text 0 ∧ IsBoundary text (octetOffsetOf text text.length) :=
    ⟨⟨0, Nat.zero_le _, octetOffsetOf_zero text⟩, text.length, le_rfl, rfl⟩
  refine Node.everywhere_iff.mpr ⟨hbounds, fun child hchild => ?_⟩
  rw [List.mem_singleton.mp hchild]
  exact Node.everywhere_iff.mpr ⟨hbounds, fun _ h => absurd h List.not_mem_nil⟩

end SourceLayers
