/-
The sidecar over many runs:

* `Json.loadLines?`: the values of a file of lines, every line of which must be complete;
* `loadLines?_linesOctets`: what was written to such a file is loaded again;
* `SidecarRun`, `Sidecar.History`: runs that store their records in one file. Between them anything
  may happen, except to that file;
* `SidecarRun.apply`, `fileAt?_of_history`: what the file holds is what the runs left there, one
  after the other.

Main statement: `sidecar_history`, that the file holds the records of all runs from the last one on
that overwrote it.
-/
import Mathlib.Tactic
import SourceLayers.Proofs.Batch

namespace SourceLayers

/-! ### Lines -/

/-- The values of a file of lines: it is cut at its line feeds, nothing stands behind the last of
them, and each line holds a value. -/
def Json.loadLines? (octets : List UInt8) : Option (List Json) :=
  let lines := octets.splitOn 10
  if lines.getLast? = some [] then lines.dropLast.mapM load? else none

lemma linesOctets_append (records more : List Json) :
    linesOctets (records ++ more) = linesOctets records ++ linesOctets more := by
  rw [linesOctets, List.flatMap_append, encodeUtf8_append, linesOctets, linesOctets]

lemma linesOctets_cons (record : Json) (rest : List Json) :
    linesOctets (record :: rest) = encodeUtf8 record.compact ++ 10 :: linesOctets rest := by
  rw [linesOctets, List.flatMap_cons, encodeUtf8_append, encodeUtf8_append, List.append_assoc]
  rfl

/-- No value goes beyond its line. -/
lemma splitOn_linesOctets {records : List Json} (h : ∀ record ∈ records, record.IsPlain) :
    (linesOctets records).splitOn 10 =
      (records.map fun record => encodeUtf8 record.compact) ++ [[]] := by
  induction records with
  | nil => rfl
  | cons record rest ih =>
      rw [List.forall_mem_cons] at h
      have hline : (10 : UInt8) ∉ encodeUtf8 record.compact :=
        linefeed_notMem_encodeUtf8 (Json.linefeed_notMem_compact h.1)
      rw [linesOctets_cons, List.splitOn_append_cons_self_of_not_mem hline, ih h.2]
      rfl

/-- A value that is loaded as it was stored: it has no fractions and no repeated names, and nothing
in it is too wide or too deep. -/
def Json.Storable (value : Json) : Prop :=
  value.IsPlain ∧ value.writeFault? Json.maxWrittenDepth = none

/-- Values that were stored one to a line are loaded again. -/
lemma loadLines?_linesOctets {records : List Json} (h : ∀ record ∈ records, record.Storable) :
    Json.loadLines? (linesOctets records) = some records := by
  have hload : ∀ {records : List Json}, (∀ record ∈ records, record.Storable) →
      (records.map fun record => encodeUtf8 record.compact).mapM Json.load? = some records := by
    intro records h
    induction records with
    | nil => rfl
    | cons record rest ih =>
        rw [List.forall_mem_cons] at h
        rw [List.map_cons, List.mapM_cons, Json.load?_compact h.1.1 h.1.2, ih h.2]
        rfl
  rw [Json.loadLines?, splitOn_linesOctets fun record hrecord => (h record hrecord).1]
  simp only [List.getLast?_concat, if_true, List.dropLast_concat]
  exact hload h

/-! ### Runs -/

/-- A run that stored its records: whether it overwrote the file, and what it stored. -/
structure SidecarRun where
  overwrite : Bool
  records : List Json

/-- What the file holds after a run, by what it held before, if there was a file. -/
def SidecarRun.apply (content : Option (List UInt8)) (run : SidecarRun) : Option (List UInt8) :=
  if run.overwrite then some (linesOctets run.records)
  else if run.records.isEmpty then content
  else some (content.getD [] ++ linesOctets run.records)

/-- Trees that come about from a first one by runs with one sidecar, and the runs that stored their
records, in order. Anything may happen before and after a run, except to the sidecar. -/
inductive Sidecar.History (path : Path) (start : FileTree) : List SidecarRun → FileTree → Prop
  | start : History path start [] start
  | outside {runs : List SidecarRun} {tree next : FileTree} (history : History path start runs tree)
      (kept : next.fileAt? path.place = tree.fileAt? path.place) : History path start runs next
  | stored {runs : List SidecarRun} {tree after : FileTree} {env : Environment}
      {options : BatchOptions} {report : BatchReport} (history : History path start runs tree)
      (sidecar : options.sidecar = some path)
      (run : (runBatch env options).run.run tree = (.ok report, after)) :
      History path start (runs ++ [⟨options.overwrite, report.values env⟩]) after
  | failed {runs : List SidecarRun} {tree after : FileTree} {env : Environment}
      {options : BatchOptions} {fault : BatchFault} (history : History path start runs tree)
      (sidecar : options.sidecar = some path)
      (run : (runBatch env options).run.run tree = (.error fault, after)) :
      History path start runs after

variable {env : Environment} {options : BatchOptions} {report : BatchReport} {path : Path}
  {tree start after : FileTree} {runs : List SidecarRun} {content : Option (List UInt8)}

/-- A run with a sidecar that succeeded stored the values of its report. -/
lemma saveLines_of_runBatch (hsidecar : options.sidecar = some path)
    (h : (runBatch env options).run.run tree = (.ok report, after)) :
    (saveLines (report.values env) path (!options.overwrite)).run.run tree = (.ok (), after) := by
  cases hreport : reportBatch env options tree with
  | error fault =>
      rw [run_runBatch, hreport] at h
      cases h
  | ok made =>
      obtain ⟨rfl, hsave⟩ := stored_of_runBatch hreport hsidecar h
      exact hsave

/-- **What one run does to the sidecar.** -/
lemma fileAt?_of_runBatch (hsidecar : options.sidecar = some path)
    (h : (runBatch env options).run.run tree = (.ok report, after)) :
    after.fileAt? path.place =
      SidecarRun.apply (tree.fileAt? path.place) ⟨options.overwrite, report.values env⟩ := by
  rw [fileAt?_saveLines (saveLines_of_runBatch hsidecar h), SidecarRun.apply, keptOctets]
  cases options.overwrite <;> cases report.values env <;> simp

/-- The values of a run are loaded as they were stored. -/
lemma storable_of_runBatch (hsidecar : options.sidecar = some path)
    (h : (runBatch env options).run.run tree = (.ok report, after)) :
    ∀ value ∈ report.values env, value.Storable := by
  intro value hvalue
  refine ⟨?_, writeFault?_of_saveLines (saveLines_of_runBatch hsidecar h) value hvalue⟩
  obtain ⟨record, -, rfl⟩ := List.mem_map.mp hvalue
  exact record.isPlain_toJson env.runtimeMs

/-- A run that failed left the sidecar as it was. -/
lemma fileAt?_of_runBatch_fault {fault : BatchFault} (hsidecar : options.sidecar = some path)
    (h : (runBatch env options).run.run tree = (.error fault, after)) :
    after.fileAt? path.place = tree.fileAt? path.place := by
  rw [run_runBatch, hsidecar] at h
  cases hreport : reportBatch env options tree with
  | error fault => rw [hreport] at h; cases h; rfl
  | ok made =>
      simp only [hreport, run_storeRecords] at h
      rcases hsave : (saveLines (made.values env) path (!options.overwrite)).run.run tree with
        ⟨result, next⟩
      rw [hsave] at h
      cases result with
      | ok _ => cases h
      | error fault =>
          cases h
          exact saveLines_fault hsave path.place

/-! ### Histories -/

/-- After any history the file holds what the runs left there, one after the other. -/
lemma fileAt?_of_history (h : Sidecar.History path start runs tree) :
    tree.fileAt? path.place = runs.foldl SidecarRun.apply (start.fileAt? path.place) := by
  induction h with
  | start => rfl
  | outside _ kept ih => rw [kept, ih]
  | stored _ sidecar run ih =>
      rw [fileAt?_of_runBatch sidecar run, ih, List.foldl_append, List.foldl_cons, List.foldl_nil]
  | failed _ sidecar run ih => rw [fileAt?_of_runBatch_fault sidecar run, ih]

/-- Everything that the runs of a history stored is loaded as it was stored. -/
lemma storable_of_history (h : Sidecar.History path start runs tree) :
    ∀ run ∈ runs, ∀ record ∈ run.records, record.Storable := by
  induction h with
  | start => simp
  | outside _ _ ih => exact ih
  | stored _ sidecar run ih =>
      intro other hother
      rcases List.mem_append.mp hother with hother | hother
      · exact ih other hother
      · rw [List.mem_singleton.mp hother]
        exact storable_of_runBatch sidecar run
  | failed _ _ _ ih => exact ih

lemma linesOctets_of_isEmpty (h : (runs.all fun run => run.records.isEmpty) = true) :
    linesOctets (runs.flatMap fun run => run.records) = [] := by
  have hnone : runs.flatMap (fun run => run.records) = [] := by
    rw [List.flatMap_eq_nil_iff]
    simpa using h
  rw [hnone]
  rfl

/-- Runs that only add put their records behind what there is. Without any records, a file that is
not there is not made. -/
lemma foldl_apply_adding (h : ∀ run ∈ runs, run.overwrite = false) :
    runs.foldl SidecarRun.apply content =
      if runs.all fun run => run.records.isEmpty then content
      else some (content.getD [] ++ linesOctets (runs.flatMap fun run => run.records)) := by
  induction runs generalizing content with
  | nil => rfl
  | cons run rest ih =>
      rw [List.forall_mem_cons] at h
      rw [List.foldl_cons, ih h.2, SidecarRun.apply, h.1, List.all_cons, List.flatMap_cons,
        linesOctets_append]
      cases hrun : run.records with
      | nil => simp [linesOctets, encodeUtf8]
      | cons record more =>
          cases hrest : rest.all fun run => run.records.isEmpty with
          | false => simp
          | true => simp [linesOctets_of_isEmpty hrest]

/-- From a run that overwrites on, what was there before does not matter. -/
lemma foldl_apply_overwriting {before later : List SidecarRun} {run : SidecarRun}
    (hrun : run.overwrite = true) (hlater : ∀ other ∈ later, other.overwrite = false) :
    (before ++ run :: later).foldl SidecarRun.apply content =
      some (linesOctets ((run :: later).flatMap fun run => run.records)) := by
  rw [List.foldl_append, List.foldl_cons, SidecarRun.apply, if_pos hrun, foldl_apply_adding hlater,
    List.flatMap_cons, linesOctets_append, Option.getD_some]
  split_ifs with hnone
  · rw [linesOctets_of_isEmpty hnone, List.append_nil]
  · rfl

/-- The last run that overwrites, if there is one. -/
lemma exists_last_overwriting (h : ∃ run ∈ runs, run.overwrite = true) :
    ∃ before run later, runs = before ++ run :: later ∧ run.overwrite = true ∧
      ∀ other ∈ later, other.overwrite = false := by
  induction runs with
  | nil => simp at h
  | cons first rest ih =>
      by_cases hrest : ∃ run ∈ rest, run.overwrite = true
      · obtain ⟨before, run, later, rfl, hrun⟩ := ih hrest
        exact ⟨first :: before, run, later, rfl, hrun⟩
      · have hlater : ∀ other ∈ rest, other.overwrite = false := by
          intro other hother
          exact Bool.eq_false_iff.mpr fun hover => hrest ⟨other, hother, hover⟩
        obtain ⟨run, hrun, hover⟩ := h
        rcases List.mem_cons.mp hrun with rfl | hrun
        · exact ⟨[], run, rest, rfl, hover, hlater⟩
        · exact absurd ⟨run, hrun, hover⟩ hrest

/-- A file comes about by the first run that overwrites or stores something, and stays. -/
lemma foldl_apply_eq_none_iff :
    runs.foldl SidecarRun.apply none = none ↔
      ∀ run ∈ runs, run.overwrite = false ∧ run.records = [] := by
  by_cases hover : ∃ run ∈ runs, run.overwrite = true
  · obtain ⟨before, run, later, rfl, hrun, hlater⟩ := exists_last_overwriting hover
    rw [foldl_apply_overwriting hrun hlater]
    refine iff_of_false (by simp) fun hall => ?_
    rw [(hall run (by simp)).1] at hrun
    cases hrun
  · have hadding : ∀ run ∈ runs, run.overwrite = false := by
      intro run hrun
      exact Bool.eq_false_iff.mpr fun h => hover ⟨run, hrun, h⟩
    rw [foldl_apply_adding hadding]
    constructor
    · intro hnone run hrun
      split_ifs at hnone with hempty
      exact ⟨hadding run hrun, by simpa using List.all_eq_true.mp hempty run hrun⟩
    · intro hall
      exact if_pos (List.all_eq_true.mpr fun run hrun => by simp [(hall run hrun).2])

/-- **The sidecar holds the records from the last overwriting run on.** For any history of runs with
a sidecar that is not there at first: there is a file if and only if some run overwrote it or stored
something. Cut at its line feeds it has complete lines only, and these hold the records of all runs
in order, beginning with the last one that overwrote the file, or with the first if none did. A run
without records empties the file if it overwrites, and leaves it, or its absence, alone if it does
not. A further run comes to its end if the file can be written and the counts of its records fit in
64 bits. -/
theorem sidecar_history (hstart : start.fileAt? path.place = none)
    (h : Sidecar.History path start runs tree) :
    (tree.fileAt? path.place = none ↔ ∀ run ∈ runs, run.overwrite = false ∧ run.records = []) ∧
    (∀ octets, tree.fileAt? path.place = some octets →
      ((∀ run ∈ runs, run.overwrite = false) →
        Json.loadLines? octets = some (runs.flatMap fun run => run.records)) ∧
      ∀ before run later, runs = before ++ run :: later → run.overwrite = true →
        (∀ other ∈ later, other.overwrite = false) →
        Json.loadLines? octets = some ((run :: later).flatMap fun run => run.records)) ∧
    ∀ env options, options.sidecar = some path →
      (∀ report after, (runBatch env options).run.run tree = (.ok report, after) →
        report.records = [] →
        after.fileAt? path.place =
          if options.overwrite then some [] else tree.fileAt? path.place) ∧
      ∀ report, reportBatch env options tree = .ok report → tree.Writable path →
        (∀ record ∈ report.records, record.result.Fits) → env.runtimeMs < 2 ^ 64 →
        ∃ after, (runBatch env options).run.run tree =
          (.ok { report with sidecar := some path }, after) := by
  have hfile := fileAt?_of_history h
  have hstorable := storable_of_history h
  rw [hstart] at hfile
  refine ⟨?_, fun octets hoctets => ⟨fun hadding => ?_, ?_⟩, fun env options hsidecar => ⟨?_, ?_⟩⟩
  · rw [hfile, foldl_apply_eq_none_iff]
  · rw [hoctets, foldl_apply_adding hadding] at hfile
    split_ifs at hfile
    rw [Option.getD_none, List.nil_append, Option.some_inj] at hfile
    rw [hfile]
    refine loadLines?_linesOctets fun record hrecord => ?_
    obtain ⟨run, hrun, hrecord⟩ := List.mem_flatMap.mp hrecord
    exact hstorable run hrun record hrecord
  · intro before run later hruns hrun hlater
    rw [hoctets, hruns, foldl_apply_overwriting hrun hlater, Option.some_inj] at hfile
    rw [hfile]
    refine loadLines?_linesOctets fun record hrecord => ?_
    obtain ⟨other, hother, hrecord⟩ := List.mem_flatMap.mp hrecord
    refine hstorable other ?_ record hrecord
    rw [hruns]
    exact List.mem_append_right before hother
  · intro report after hrun hnone
    rw [fileAt?_of_runBatch hsidecar hrun, BatchReport.values, hnone, SidecarRun.apply]
    cases options.overwrite <;> rfl
  · intro report hreport hpath hfits htime
    exact exists_runBatch hreport hsidecar hpath hfits htime

/-- Two files, one of them in a directory. -/
def pairTree : FileTree :=
  .ofEntries [] [(⟨"", ["a.tsx"]⟩, [97, 10]), (⟨"", ["b", "c.jsx"]⟩, [0xC3, 0xA9])]

/-- A file in a directory that is not there yet. -/
def pairSidecar : Path :=
  ⟨"", ["out", "records.jsonl"]⟩

/-- What a run over given files makes of a tree. -/
def runPair (paths : List Path) (overwrite : Bool) (tree : FileTree) :
    Except BatchFault BatchReport × FileTree :=
  (runBatch bareEnvironment { paths, overwrite, sidecar := some pairSidecar }).run.run tree

/-- The number of records of a run, if it came to its end. -/
def recordCount? : Except BatchFault BatchReport × FileTree → Option Nat
  | (.ok report, _) => some (report.values bareEnvironment).length
  | (.error _, _) => none

lemma exists_of_recordCount? {out : Except BatchFault BatchReport × FileTree} {n : Nat}
    (h : recordCount? out = some n) :
    ∃ report, out = (.ok report, out.2) ∧ (report.values bareEnvironment).length = n := by
  obtain ⟨result, after⟩ := out
  cases result with
  | error fault => cases h
  | ok report => exact ⟨report, rfl, Option.some_inj.mp h⟩

/-- Four runs into one file, of which the second overwrites it without records: after them it has
the records of the last two. -/
theorem sidecar_history_overwritten :
    ∃ first second third tree,
      Sidecar.History pairSidecar pairTree
        [⟨false, first⟩, ⟨true, []⟩, ⟨false, second⟩, ⟨false, third⟩] tree ∧
      first.length = 1 ∧ second.length = 1 ∧ third.length = 1 ∧
      ∃ octets, tree.fileAt? pairSidecar.place = some octets ∧
        Json.loadLines? octets = some (second ++ third) := by
  have hstart : pairTree.fileAt? pairSidecar.place = none := by decide +kernel
  let one := runPair [⟨"", ["a.tsx"]⟩] false pairTree
  let two := runPair [] true one.2
  let three := runPair [⟨"", ["b", "c.jsx"]⟩] false two.2
  let four := runPair [⟨"", ["a.tsx"]⟩] false three.2
  obtain ⟨_, hone, hfirst⟩ :=
    exists_of_recordCount? (show recordCount? one = some 1 by decide +kernel)
  obtain ⟨_, htwo, hnone⟩ :=
    exists_of_recordCount? (show recordCount? two = some 0 by decide +kernel)
  obtain ⟨_, hthree, hsecond⟩ :=
    exists_of_recordCount? (show recordCount? three = some 1 by decide +kernel)
  obtain ⟨_, hfour, hthird⟩ :=
    exists_of_recordCount? (show recordCount? four = some 1 by decide +kernel)
  have hhistory :=
    (((Sidecar.History.start.stored rfl hone).stored rfl htwo).stored rfl hthree).stored rfl hfour
  rw [List.eq_nil_of_length_eq_zero hnone] at hhistory
  obtain ⟨habsent, hcontent, -⟩ := sidecar_history hstart hhistory
  obtain ⟨octets, hoctets⟩ := Option.ne_none_iff_exists'.mp fun hfile =>
    absurd (habsent.mp hfile) (by simp)
  refine ⟨_, _, _, _, hhistory, hfirst, hsecond, hthird, octets, hoctets, ?_⟩
  rw [(hcontent octets hoctets).2 [_] _ [_, _] rfl rfl (by simp)]
  simp

end SourceLayers
