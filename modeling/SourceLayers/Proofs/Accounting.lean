/-
What the report of a batch tells about its files:

* `total_eq_sum`: the totals are the sums of the library, so that the order of what is summed does
  not matter (`total_perm`);
* `recordOf?`, `faultOf?`, `records_eq_and_skipped_eq`: each file that was looked at has a record or
  was skipped, in order;
* `forall₂_records`, `processedFiles_eq`: the files in UTF-8 are the ones with records, each
  classified by itself;
* `BatchReport.Accounts`: a report counts each file once, and its sums are those over the files;
* `get?_of_perm`: the order of its records does not matter to a report.

Main statement: `batch_accounting`, with the bound on what the layers hold, and with the report
after files were added that are not in UTF-8. With a path through `..` such files can change more
than what is skipped, as their directories make it lead somewhere (`batch_accounting_roundabout`).
-/
import Mathlib.Tactic
import SourceLayers.Proofs.Selection

namespace SourceLayers

/-! ### Sums -/

lemma total_eq_sum {α : Type} (size : α → Nat) (items : List α) :
    total size items = (items.map size).sum :=
  List.foldr_map.symm

lemma total_perm {α : Type} {xs ys : List α} (h : xs.Perm ys) (size : α → Nat) :
    total size xs = total size ys := by
  rw [total_eq_sum, total_eq_sum]
  exact (h.map size).sum_eq

/-! ### Records -/

variable {env : Environment} {vocabulary : Vocabulary} {tree larger : FileTree} {path : Path}
  {paths : List Path} {outcomes : List FileOutcome} {report other : BatchReport}
  {options : BatchOptions}

/-- The record of a file, if it can be read. -/
def recordOf? (env : Environment) (vocabulary : Vocabulary) (tree : FileTree) (path : Path) :
    Option FileRecord :=
  match classifyFile env vocabulary tree path with
  | .ok (.classified record) => some record
  | _ => none

/-- A file that cannot be read, and why. -/
def faultOf? (tree : FileTree) (path : Path) : Option (Path × ReadFault) :=
  match tree.readText path with
  | .error fault => some (path, fault)
  | .ok _ => none

lemma readText_of_faultOf? {entry : Path × ReadFault} (h : faultOf? tree path = some entry) :
    tree.readText entry.1 = .error entry.2 := by
  rw [faultOf?] at h
  cases hread : tree.readText path with
  | ok text => rw [hread] at h; cases h
  | error fault =>
      rw [hread] at h
      cases h
      exact hread

/-- Every file has a record, or a reason why it has none. -/
lemma recordOf?_cases {outcome : FileOutcome}
    (h : classifyFile env vocabulary tree path = .ok outcome) :
    (∃ text result, tree.readText path = .ok text ∧
      classify vocabulary env.parse text = .ok result ∧ tree.decodes path = true ∧
      outcome = .classified ⟨path, Sha256.hexDigest (encodeUtf8 text), result⟩ ∧
      recordOf? env vocabulary tree path =
        some ⟨path, Sha256.hexDigest (encodeUtf8 text), result⟩ ∧
      faultOf? tree path = none) ∨
    ∃ fault, tree.readText path = .error fault ∧ tree.decodes path = false ∧
      outcome = .skipped path fault ∧ recordOf? env vocabulary tree path = none ∧
      faultOf? tree path = some (path, fault) := by
  rcases classifyFile_eq_ok_iff.mp h with ⟨text, result, hread, hresult, rfl⟩ | ⟨fault, hread, rfl⟩
  · refine Or.inl
      ⟨text, result, hread, hresult, FileTree.decodes_iff.mpr ⟨text, hread⟩, rfl, ?_, ?_⟩
    · rw [recordOf?, h]
    · rw [faultOf?, hread]
  · refine Or.inr ⟨fault, hread, FileTree.decodes_eq_false hread, rfl, ?_, ?_⟩
    · rw [recordOf?, h]
    · rw [faultOf?, hread]

/-- The records of a report are those of its files, and the files it skipped are the others. -/
lemma records_eq_and_skipped_eq
    (h : classifyFiles env vocabulary tree paths = .ok report.outcomes) :
    report.records = paths.filterMap (recordOf? env vocabulary tree) ∧
      report.skipped = paths.filterMap (faultOf? tree) := by
  rw [BatchReport.records, BatchReport.skipped]
  have hfiles := mapM_eq_ok_iff.mp h
  clear h
  generalize report.outcomes = outcomes at hfiles ⊢
  induction hfiles with
  | nil => exact ⟨rfl, rfl⟩
  | cons hfirst _ ih =>
      rcases recordOf?_cases hfirst with ⟨text, result, -, -, -, rfl, hrecord, hfault⟩ |
        ⟨fault, -, -, rfl, hrecord, hfault⟩
      · rw [List.filterMap_cons_some hrecord, List.filterMap_cons_none hfault]
        exact ⟨congrArg (List.cons _) ih.1, ih.2⟩
      · rw [List.filterMap_cons_none hrecord, List.filterMap_cons_some hfault]
        exact ⟨ih.1, congrArg (List.cons _) ih.2⟩

/-- Each file in UTF-8 has a record of its own text, and each other file is skipped. -/
lemma forall₂_records (h : classifyFiles env vocabulary tree paths = .ok outcomes) :
    List.Forall₂ (fun path record => record.path = path ∧ ∃ text, tree.readText path = .ok text ∧
        classify vocabulary env.parse text = .ok record.result)
      (paths.filter tree.decodes) (paths.filterMap (recordOf? env vocabulary tree)) ∧
    (paths.filterMap (faultOf? tree)).map Prod.fst =
      paths.filter fun path => !tree.decodes path := by
  have hfiles := mapM_eq_ok_iff.mp h
  clear h
  induction hfiles with
  | nil => exact ⟨.nil, rfl⟩
  | cons hfirst _ ih =>
      rcases recordOf?_cases hfirst with
        ⟨text, result, hread, hresult, hdecodes, -, hrecord, hfault⟩ |
        ⟨fault, -, hdecodes, -, hrecord, hfault⟩
      · rw [List.filter_cons_of_pos hdecodes, List.filterMap_cons_some hrecord,
          List.filterMap_cons_none hfault, List.filter_cons_of_neg (by simp [hdecodes])]
        exact ⟨.cons ⟨rfl, text, hread, hresult⟩ ih.1, ih.2⟩
      · rw [List.filter_cons_of_neg (by simp [hdecodes]), List.filterMap_cons_none hrecord,
          List.filterMap_cons_some hfault, List.filter_cons_of_pos (by simp [hdecodes]),
          List.map_cons]
        exact ⟨ih.1, congrArg (List.cons _) ih.2⟩

/-- As many files were processed as are in UTF-8. -/
lemma processedFiles_eq (h : classifyFiles env vocabulary tree paths = .ok report.outcomes) :
    report.processedFiles = (paths.filter tree.decodes).length := by
  rw [BatchReport.processedFiles, (records_eq_and_skipped_eq h).1]
  exact (forall₂_records h).1.length_eq.symm

/-! ### Reports -/

/-- The characters that the layers hold in some texts together. -/
def coveredIn (results : List Classification) : Nat :=
  total (fun layer => total (fun result => result.coverage layer) results) Layer.all

/-- The characters of some texts. -/
def charsIn (results : List Classification) : Nat :=
  total (fun result => result.textLength) results

/-- A report accounts for the files that were looked at: those in UTF-8 with their classifications,
each file by itself, and the others. -/
structure BatchReport.Accounts (report : BatchReport) (decoded others : List Path)
    (results : List Classification) : Prop where
  skipped : report.skipped.map Prod.fst = others
  skippedFiles : report.toJson.get? "skipped_files" = some (.arr (report.skipped.map skippedToJson))
  processedFiles : report.toJson.get? "processed_files" = some (.nat decoded.length)
  sidecarRecords : report.toJson.get? "sidecar_records" = some (.nat decoded.length)
  parseErrorFiles : report.toJson.get? "parse_error_files" =
    some (.nat (results.countP fun result => 0 < result.diagnostics.parseErrorCount))
  totalChars : report.toJson.get? "total_chars" = some (.nat (charsIn results))
  totalRegions : report.toJson.get? "total_regions" =
    some (.nat (total (fun result => result.regions.length) results))
  layerCoverage : report.toJson.get? "layer_coverage" =
    some (coverageToJson fun layer => total (fun result => result.coverage layer) results)
  coveredRatio : report.toJson.get? "covered_ratio" =
    some (.decimal (.ratio (coveredIn results) (charsIn results)))

lemma accounts (h : classifyFiles env vocabulary tree paths = .ok report.outcomes) :
    report.Accounts (paths.filter tree.decodes) (paths.filter fun path => !tree.decodes path)
      (report.records.map fun record => record.result) := by
  constructor
  · rw [(records_eq_and_skipped_eq h).2, (forall₂_records h).2]
  · rfl
  · rw [← processedFiles_eq h]
    rfl
  · rw [← processedFiles_eq h]
    rfl
  · rw [List.countP_map]
    rfl
  · rw [charsIn, total, List.foldr_map]
    rfl
  · rw [total, List.foldr_map]
    rfl
  · simp only [total, List.foldr_map]
    rfl
  · simp only [coveredIn, charsIn, total, List.foldr_map]
    rfl

/-- Together the layers hold no more characters than the texts have. -/
lemma coveredIn_le_charsIn {results : List Classification}
    (h : ∀ result ∈ results, ∃ text, classify vocabulary env.parse text = .ok result) :
    coveredIn results ≤ charsIn results := by
  have hresult : ∀ result ∈ results, total result.coverage Layer.all ≤ result.textLength := by
    intro result hmem
    obtain ⟨text, hclassify⟩ := h result hmem
    exact Classification.coverage_le_textLength hclassify
  -- the table of the layers in the texts is summed by columns or by rows
  have hrows : coveredIn results =
      total (fun result => total result.coverage Layer.all) results := by
    simpa only [coveredIn, total_eq_sum, Multiset.map_coe, Multiset.sum_coe] using
      Multiset.sum_map_sum_map (Layer.all : Multiset Layer) (results : Multiset Classification)
        (f := fun layer result => result.coverage layer)
  rw [hrows, charsIn, total_eq_sum, total_eq_sum]
  exact List.sum_le_sum hresult

/-! ### Added files -/

/-- The order of the records does not matter to a report, and the skipped files only to their own
field. -/
lemma get?_of_perm (hrecords : other.records.Perm report.records)
    (hinputs : other.inputs = report.inputs) (hsuffixes : other.suffixes = report.suffixes)
    (hsidecar : other.sidecar = report.sidecar) {name : String} (hname : name ≠ "skipped_files") :
    other.toJson.get? name = report.toJson.get? name := by
  have hprocessed : other.processedFiles = report.processedFiles := hrecords.length_eq
  have herrors : other.parseErrorFiles = report.parseErrorFiles := hrecords.countP_eq _
  have hchars : other.totalChars = report.totalChars := total_perm hrecords _
  have hregions : other.totalRegions = report.totalRegions := total_perm hrecords _
  have hcoverage : other.coverage = report.coverage := funext fun layer => total_perm hrecords _
  have hratio : other.coveredRatio = report.coveredRatio := by
    rw [BatchReport.coveredRatio, BatchReport.coveredChars, hcoverage, hchars]
    rfl
  have hother : (name == "skipped_files") = false := beq_eq_false_iff_ne.mpr hname
  simp only [BatchReport.toJson, BatchReport.fields, Json.get?, List.cons_append, List.lookup_cons,
    hother, hinputs, hsuffixes, hprocessed, herrors, hchars, hregions, hcoverage, hratio, hsidecar]

/-- A file that reads the same has the same record. -/
lemma recordOf?_congr (h : larger.readText path = tree.readText path) :
    recordOf? env vocabulary larger path = recordOf? env vocabulary tree path := by
  rw [recordOf?, recordOf?, classifyFile, classifyFile, h]

/-- Only files in UTF-8 have records. -/
lemma filterMap_recordOf? (paths : List Path) :
    paths.filterMap (recordOf? env vocabulary tree) =
      (paths.filter tree.decodes).filterMap (recordOf? env vocabulary tree) := by
  rw [List.filterMap_filter]
  refine List.filterMap_congr fun path _ => ?_
  split_ifs with hdecodes
  · rfl
  · cases hread : tree.readText path with
    | ok text => exact absurd (FileTree.decodes_iff.mpr ⟨text, hread⟩) hdecodes
    | error fault => rw [recordOf?, classifyFile, hread]

/-- **Files that are not in UTF-8 do not disturb the others**: after such files were added there are
the same records. -/
lemma records_perm_of_added {files more : List Path} {suffixes : List String}
    (htree : tree.WellFormed) (hlarger : larger.WellFormed) (hadds : tree.AddsUndecodable larger)
    (hsteady : ∀ path ∈ paths, FileTree.Steady tree larger path)
    (hfiles : tree.selectFiles suffixes paths = .ok files)
    (hmore : larger.selectFiles suffixes paths = .ok more) :
    (more.filterMap (recordOf? env vocabulary larger)).Perm
      (files.filterMap (recordOf? env vocabulary tree)) := by
  have hmem : ∀ path, path ∈ more.filter larger.decodes ↔ path ∈ files.filter tree.decodes := by
    intro path
    rw [List.mem_filter, List.mem_filter]
    exact FileTree.mem_selectFiles_added htree hlarger hadds hsteady hfiles hmore
  have hperm : (more.filter larger.decodes).Perm (files.filter tree.decodes) :=
    (List.perm_ext_iff_of_nodup ((FileTree.nodup_selectFiles hmore).filter _)
      ((FileTree.nodup_selectFiles hfiles).filter _)).mpr hmem
  have hsame : (more.filter larger.decodes).filterMap (recordOf? env vocabulary larger) =
      (more.filter larger.decodes).filterMap (recordOf? env vocabulary tree) := by
    refine List.filterMap_congr fun path hpath => ?_
    exact recordOf?_congr (hadds.readText_eq (List.mem_filter.mp ((hmem path).mp hpath)).2)
  calc more.filterMap (recordOf? env vocabulary larger)
      = (more.filter larger.decodes).filterMap (recordOf? env vocabulary larger) :=
        filterMap_recordOf? more
    _ = (more.filter larger.decodes).filterMap (recordOf? env vocabulary tree) := hsame
    List.Perm _ ((files.filter tree.decodes).filterMap (recordOf? env vocabulary tree)) :=
        hperm.filterMap _
    _ = files.filterMap (recordOf? env vocabulary tree) := (filterMap_recordOf? files).symm

/-- A report is the same after such files were added, but for the skipped ones. -/
lemma exists_report_of_added (hparse : ∀ text, OnBoundaries text (env.parse text))
    (hlimit : options.limit = none) {files more : List Path} (htree : tree.WellFormed)
    (hlarger : larger.WellFormed) (hadds : tree.AddsUndecodable larger)
    (hsteady : ∀ path ∈ options.paths, FileTree.Steady tree larger path)
    (hfiles : tree.selectFiles options.suffixes options.paths = .ok files)
    (hmore : larger.selectFiles options.suffixes options.paths = .ok more)
    (hreport : reportBatch env options tree = .ok report) :
    ∃ other, reportBatch env options larger = .ok other ∧
      ∀ name ≠ "skipped_files", other.toJson.get? name = report.toJson.get? name := by
  obtain ⟨other, hother⟩ := exists_reportBatch hparse hmore
  obtain ⟨houtcomes, hinputs, hsuffixes, hsidecar⟩ := outcomes_of_reportBatch hreport hfiles
  obtain ⟨houtcomes', hinputs', hsuffixes', hsidecar'⟩ := outcomes_of_reportBatch hother hmore
  rw [hlimit] at houtcomes houtcomes'
  have hrecords : other.records.Perm report.records := by
    rw [(records_eq_and_skipped_eq houtcomes).1, (records_eq_and_skipped_eq houtcomes').1]
    exact records_perm_of_added htree hlarger hadds hsteady hfiles hmore
  exact ⟨other, hother, fun name hname => get?_of_perm hrecords (hinputs'.trans hinputs.symm)
    (hsuffixes'.trans hsuffixes.symm) (hsidecar'.trans hsidecar.symm) hname⟩

lemma takeLimit_of_nonneg {limit : Option Int} {n : Int} (h : limit = some n) (hn : 0 ≤ n)
    (files : List Path) : takeLimit limit files = files.take n.toNat := by
  rw [h, takeLimit, if_pos hn]

lemma takeLimit_of_neg {limit : Option Int} (h : ∀ n, limit = some n → n < 0) (files : List Path) :
    takeLimit limit files = files := by
  cases limit with
  | none => rfl
  | some n => rw [takeLimit, if_neg (not_le.mpr (h n rfl))]

/-- **A batch accounts for its files, and a file that cannot be decoded does not disturb the
others.** Where files can be selected there is a report. The files looked at are all of them, or as
many of the first as a limit allows that is not negative. Those in UTF-8 are classified one by one,
and the others skipped in order: each count is the sum over the former, `skipped_files` lists the
latter, and together they are all files. The layers hold no more characters than the texts have, so
the exact ratio lies between zero and one, and it is zero without a division where there are no
characters. Without a limit, files that are added and not in UTF-8 change nothing in the report
except the skipped files, as long as no given path goes up through a new directory. -/
theorem batch_accounting (env : Environment) (hparse : ∀ text, OnBoundaries text (env.parse text))
    (options : BatchOptions) (tree : FileTree) {files : List Path}
    (hfiles : tree.selectFiles options.suffixes options.paths = .ok files) :
    ∃ report chosen results,
      (∀ n, options.limit = some n → 0 ≤ n → chosen = files.take n.toNat) ∧
      ((∀ n, options.limit = some n → n < 0) → chosen = files) ∧
      reportBatch env options tree = .ok report ∧
      (options.sidecar = none → (runBatch env options).run.run tree = (.ok report, tree)) ∧
      (∀ path stored after, options.sidecar = some path →
        (runBatch env options).run.run tree = (.ok stored, after) →
        stored = { report with sidecar := some path }) ∧
      List.Forall₂ (fun path result => ∃ text, tree.readText path = .ok text ∧
          classify options.vocabulary env.parse text = .ok result)
        (chosen.filter tree.decodes) results ∧
      report.Accounts (chosen.filter tree.decodes) (chosen.filter fun path => !tree.decodes path)
        results ∧
      (∀ entry ∈ report.skipped, tree.readText entry.1 = .error entry.2) ∧
      report.processedFiles + report.skipped.length = chosen.length ∧
      coveredIn results ≤ charsIn results ∧
      0 ≤ (coveredIn results : ℚ) / charsIn results ∧
      (coveredIn results : ℚ) / charsIn results ≤ 1 ∧
      (charsIn results = 0 → Decimal.ratio (coveredIn results) (charsIn results) =
        { digits := 0, exponent := -6 }) ∧
      (options.limit = none → tree.WellFormed → ∀ larger more, larger.WellFormed →
        tree.AddsUndecodable larger →
        (∀ path ∈ options.paths, FileTree.Steady tree larger path) →
        larger.selectFiles options.suffixes options.paths = .ok more →
        ∃ other, reportBatch env options larger = .ok other ∧
          ∀ name ≠ "skipped_files", other.toJson.get? name = report.toJson.get? name) := by
  obtain ⟨report, hreport⟩ := exists_reportBatch hparse hfiles
  obtain ⟨hclassified, -⟩ := outcomes_of_reportBatch hreport hfiles
  obtain ⟨hrecords, hskipped⟩ := records_eq_and_skipped_eq hclassified
  obtain ⟨hforall, -⟩ := forall₂_records hclassified
  have haccounts := accounts hclassified
  have hle : coveredIn (report.records.map fun record => record.result) ≤
      charsIn (report.records.map fun record => record.result) := by
    have hresults : ∀ result ∈ report.records.map fun record => record.result,
        ∃ text, classify options.vocabulary env.parse text = .ok result := by
      intro result hresult
      obtain ⟨record, hrecord, rfl⟩ := List.mem_map.mp hresult
      obtain ⟨text, -, hclassify, -⟩ := classify_of_mem_records hreport hrecord
      exact ⟨text, hclassify⟩
    exact coveredIn_le_charsIn hresults
  refine ⟨report, takeLimit options.limit files, report.records.map fun record => record.result,
    fun n hn hpos => takeLimit_of_nonneg hn hpos files, fun hneg => takeLimit_of_neg hneg files,
    hreport, run_runBatch_bare hreport, fun path stored after hsidecar hrun =>
      (stored_of_runBatch hreport hsidecar hrun).1, ?_, haccounts, ?_, ?_, hle, by positivity,
    ?_, ?_, ?_⟩
  · rw [hrecords, List.forall₂_map_right_iff]
    exact hforall.imp fun path record h => h.2
  · intro entry hentry
    rw [hskipped] at hentry
    obtain ⟨path, -, hfault⟩ := List.mem_filterMap.mp hentry
    exact readText_of_faultOf? hfault
  · have hothers : report.skipped.length =
        ((takeLimit options.limit files).filter fun path => !tree.decodes path).length := by
      rw [← haccounts.skipped, List.length_map]
    rw [processedFiles_eq hclassified, hothers]
    exact (List.length_eq_length_filter_add tree.decodes).symm
  · exact div_le_one_of_le₀ (by exact_mod_cast hle) (by positivity)
  · intro hzero
    rw [Decimal.ratio, if_pos (Or.inr hzero)]
  · intro hlimit htree larger more hlarger hadds hsteady hmore
    exact exists_report_of_added hparse hlimit htree hlarger hadds hsteady hfiles hmore hreport

/-- A file that is not in UTF-8, and one that is. -/
def mixedEntries : List (Path × List UInt8) :=
  [(⟨"", ["a.tsx"]⟩, [0xFF]), (⟨"", ["b", "c.jsx"]⟩, [0xC3, 0xA9])]

/-- Two more files that are not in UTF-8, one of them in a new directory. -/
def strayEntries : List (Path × List UInt8) :=
  [(⟨"", ["b", "d.tsx"]⟩, [0xC3]), (⟨"", ["e", "f.tsx"]⟩, [0xE9, 10])]

/-- One of the two files is processed and the other is skipped, and so it stays with the two stray
ones below the directory. -/
theorem batch_accounting_mixed :
    (FileTree.ofEntries [] mixedEntries).selectFiles defaultSuffixes [⟨"", []⟩] =
      .ok [⟨"", ["a.tsx"]⟩, ⟨"", ["b", "c.jsx"]⟩] ∧
    ∃ report other,
      (runBatch bareEnvironment { paths := [⟨"", []⟩] }).run.run (.ofEntries [] mixedEntries) =
        (.ok report, .ofEntries [] mixedEntries) ∧
      report.skipped.map Prod.fst = [⟨"", ["a.tsx"]⟩] ∧
      report.toJson.get? "processed_files" = some (.nat 1) ∧
      reportBatch bareEnvironment { paths := [⟨"", []⟩] }
        (.ofEntries [] (mixedEntries ++ strayEntries)) = .ok other ∧
      other.toJson.get? "processed_files" = some (.nat 1) := by
  have hfiles : (FileTree.ofEntries [] mixedEntries).selectFiles defaultSuffixes [⟨"", []⟩] =
      .ok [⟨"", ["a.tsx"]⟩, ⟨"", ["b", "c.jsx"]⟩] :=
    FileTree.selectFiles_of_sorted (by decide +kernel) (by decide +kernel) (by decide +kernel)
  have hmore : (FileTree.ofEntries [] (mixedEntries ++ strayEntries)).selectFiles defaultSuffixes
      [⟨"", []⟩] = .ok [⟨"", ["a.tsx"]⟩, ⟨"", ["b", "c.jsx"]⟩, ⟨"", ["b", "d.tsx"]⟩,
        ⟨"", ["e", "f.tsx"]⟩] :=
    FileTree.selectFiles_of_sorted (by decide +kernel) (by decide +kernel) (by decide +kernel)
  obtain ⟨report, chosen, results, -, hchosen, -, hrun, -, -, haccounts, -, -, -, -, -, -,
    hadded⟩ := batch_accounting bareEnvironment onBoundaries_bareEnvironment { paths := [⟨"", []⟩] }
      (.ofEntries [] mixedEntries) hfiles
  rw [hchosen (by simp)] at haccounts
  have hdecoded : [Path.mk "" ["a.tsx"], ⟨"", ["b", "c.jsx"]⟩].filter
      (FileTree.ofEntries [] mixedEntries).decodes = [⟨"", ["b", "c.jsx"]⟩] := by decide +kernel
  have hothers : [Path.mk "" ["a.tsx"], ⟨"", ["b", "c.jsx"]⟩].filter
      (fun path => !(FileTree.ofEntries [] mixedEntries).decodes path) = [⟨"", ["a.tsx"]⟩] := by
    decide +kernel
  rw [hdecoded, hothers] at haccounts
  obtain ⟨other, hother, hsame⟩ := hadded rfl ⟨by decide +kernel, by decide +kernel⟩ _ _
    ⟨by decide +kernel, by decide +kernel⟩ ⟨by decide +kernel, by decide +kernel⟩
    (by simp [FileTree.Steady]) hmore
  exact ⟨hfiles, report, other, hrun rfl, haccounts.skipped, haccounts.processedFiles, hother,
    (hsame "processed_files" (by decide)).trans haccounts.processedFiles⟩

/-- Where the paths give no file twice, a batch without a limit processes what they give in UTF-8.
-/
lemma exists_processedFiles (options : BatchOptions) {all : List (List Path)}
    (hparse : ∀ text, OnBoundaries text (env.parse text)) (hlimit : options.limit = none)
    (hall : options.paths.mapM (tree.filesAt options.suffixes) = .ok all)
    (honce : all.flatten.Nodup) :
    ∃ report, reportBatch env options tree = .ok report ∧
      report.toJson.get? "processed_files" =
        some (.nat (all.flatten.filter tree.decodes).length) := by
  obtain ⟨files, hfiles, hperm⟩ := FileTree.exists_perm_selectFiles hall honce
  obtain ⟨report, hreport⟩ := exists_reportBatch hparse hfiles
  obtain ⟨hclassified, -⟩ := outcomes_of_reportBatch hreport hfiles
  refine ⟨report, hreport, ?_⟩
  rw [(accounts hclassified).processedFiles, hlimit, takeLimit,
    (hperm.filter tree.decodes).length_eq]

/-- The current directory, and a file of it on a way that leads through another directory. -/
def roundaboutPaths : List Path :=
  [⟨"", []⟩, ⟨"", ["x", "..", "a.tsx"]⟩]

/-- The file alone. -/
def roundaboutEntries : List (Path × List UInt8) :=
  [(⟨"", ["a.tsx"]⟩, [0x20])]

/-- A file that is not in UTF-8, with which the other directory comes to be. -/
def openingEntries : List (Path × List UInt8) :=
  [(⟨"", ["x", "bad.tsx"]⟩, [0xFF])]

/-- An added file opens a way: with its directory a path of the command leads to a file that is then
processed a second time. -/
theorem batch_accounting_roundabout :
    (FileTree.ofEntries [] roundaboutEntries).WellFormed ∧
      (FileTree.ofEntries [] (roundaboutEntries ++ openingEntries)).WellFormed ∧
      (FileTree.ofEntries [] roundaboutEntries).AddsUndecodable
        (.ofEntries [] (roundaboutEntries ++ openingEntries)) ∧
      ∃ report other,
        reportBatch bareEnvironment { paths := roundaboutPaths } (.ofEntries [] roundaboutEntries) =
            .ok report ∧
          reportBatch bareEnvironment { paths := roundaboutPaths }
            (.ofEntries [] (roundaboutEntries ++ openingEntries)) = .ok other ∧
          report.toJson.get? "processed_files" = some (.nat 1) ∧
          other.toJson.get? "processed_files" = some (.nat 2) := by
  have hbefore : roundaboutPaths.mapM
      ((FileTree.ofEntries [] roundaboutEntries).filesAt defaultSuffixes) =
        .ok [[⟨"", ["a.tsx"]⟩], []] := by decide +kernel
  have hafter : roundaboutPaths.mapM
      ((FileTree.ofEntries [] (roundaboutEntries ++ openingEntries)).filesAt defaultSuffixes) =
        .ok [[⟨"", ["a.tsx"]⟩, ⟨"", ["x", "bad.tsx"]⟩], [⟨"", ["x", "..", "a.tsx"]⟩]] := by
    decide +kernel
  obtain ⟨report, hreport, hone⟩ := exists_processedFiles { paths := roundaboutPaths }
    onBoundaries_bareEnvironment rfl hbefore (by decide)
  obtain ⟨other, hother, htwo⟩ := exists_processedFiles { paths := roundaboutPaths }
    onBoundaries_bareEnvironment rfl hafter (by decide)
  refine ⟨⟨by decide +kernel, by decide +kernel⟩, ⟨by decide +kernel, by decide +kernel⟩,
    ⟨by decide +kernel, by decide +kernel⟩, report, other, hreport, hother, hone.trans ?_,
    htwo.trans ?_⟩
  · exact congrArg (fun n => some (Json.nat n)) (by decide +kernel)
  · exact congrArg (fun n => some (Json.nat n)) (by decide +kernel)

end SourceLayers
