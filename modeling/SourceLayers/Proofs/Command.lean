/-
What a command does to a tree of files:

* `KeepsTree`: a computation that reads a tree and changes nothing of it;
* `runOptions_cases`: a command fails, or is refused, or goes on to regions or to a report. Up to
  there the tree is as it was;
* `runRegions_cases`: regions are printed or refused, and the tree is as it was;
* `exit_of_runReport`, `changesOnly_runReport`: a report that is finished is a success, and touches
  the files that are to take the records and the report only.

Main statement: `command_effects`, that a command that is refused changes nothing and prints
nothing, and that others change only the files that they are asked to write.
-/
import Mathlib.Tactic
import SourceLayers.Command.Run
import SourceLayers.Proofs.Batch

namespace SourceLayers

open FileTree (Touches)

/-! ### Computations that change nothing -/

section KeepsTree

variable {ε α β : Type}

/-- A computation that leaves every tree as it is, whatever comes of it. -/
def KeepsTree (step : FileM ε α) : Prop :=
  ∀ tree, (step.run.run tree).2 = tree

lemma KeepsTree.changesOnly {step : FileM ε α} (h : KeepsTree step) (targets : List Place) :
    ChangesOnly targets step := by
  intro tree
  rw [h tree]
  exact Touches.refl targets tree

lemma KeepsTree.bind {x : FileM ε α} {f : α → FileM ε β} (hx : KeepsTree x)
    (hf : ∀ a, KeepsTree (f a)) : KeepsTree (x >>= f) :=
  run_bind_snd (R := fun tree next => next = tree) (fun h h' => h'.trans h) hx hf

lemma keepsTree_pure (a : α) : KeepsTree (pure a : FileM ε α) := fun _ => rfl

lemma keepsTree_filterAuxM {f : α → FileM ε Bool} (hf : ∀ a, KeepsTree (f a))
    (items found : List α) : KeepsTree (items.filterAuxM f found) := by
  induction items generalizing found with
  | nil => exact keepsTree_pure found
  | cons item rest ih => exact (hf item).bind fun _ => ih _

end KeepsTree

lemma keepsTree_ofFile {α : Type} (result : Except FileError α) :
    KeepsTree (CommandM.ofFile result) := by
  intro tree
  cases result <;> rfl

lemma keepsTree_valueOf {α : Type} (option : Flag) (setting : Setting α) :
    KeepsTree (CommandM.valueOf option setting) := by
  intro tree
  cases setting <;> rfl

lemma keepsTree_commandSuffixes (options : Options) : KeepsTree (commandSuffixes options) := by
  intro tree
  rw [commandSuffixes]
  split_ifs
  · rfl
  · split <;> rfl

/-! ### Missing paths -/

/-- Whether a path is missed, as a step of the command. -/
abbrev isMissing (tree : FileTree) (path : Path) : CommandM Bool :=
  Bool.not <$> CommandM.ofFile (tree.isPresent path)

lemma keepsTree_isMissing (tree : FileTree) (path : Path) : KeepsTree (isMissing tree path) := by
  intro other
  rw [isMissing, run_map]
  exact keepsTree_ofFile _ other

lemma isPresent_of_isMissing {tree next : FileTree} {path : Path} {missed : Bool}
    (h : (isMissing tree path).run.run tree = (.ok missed, next)) :
    tree.isPresent path = .ok (!missed) := by
  rw [isMissing, run_map] at h
  cases hpresent : tree.isPresent path with
  | error error => rw [hpresent] at h; cases h
  | ok present =>
      rw [hpresent] at h
      cases h
      rw [Bool.not_not]

/-- Where no look-up fails, the paths that are missed are those that lead nowhere. -/
lemma mem_missing_iff {tree next : FileTree} {paths found missing : List Path}
    (h : (paths.filterAuxM (isMissing tree) found).run.run tree = (.ok missing, next)) :
    (∀ path ∈ paths, ∃ present, tree.isPresent path = .ok present) ∧
      ∀ path, path ∈ missing ↔
        path ∈ found ∨ path ∈ paths ∧ tree.isPresent path = .ok false := by
  induction paths generalizing found with
  | nil =>
      cases h
      exact ⟨by simp, by simp⟩
  | cons path rest ih =>
      obtain ⟨missed, same, hfirst, hrest⟩ := run_bind_eq_ok h
      have hsame := keepsTree_isMissing tree path tree
      rw [hfirst] at hsame
      obtain rfl : same = tree := hsame
      have hpresent := isPresent_of_isMissing hfirst
      obtain ⟨hlookups, hmem⟩ := ih hrest
      refine ⟨List.forall_mem_cons.mpr ⟨⟨_, hpresent⟩, hlookups⟩, fun other => ?_⟩
      rw [hmem, List.mem_cons]
      by_cases hother : other = path
      · subst hother
        cases missed <;> simp [hpresent]
      · cases missed <;> simp [hother]

/-- What comes of looking for all paths: a look-up fails, or some path leads nowhere, or all paths
lead somewhere. -/
lemma run_missing_cases (tree : FileTree) (paths : List Path) :
    (∃ fault, (paths.filterM (isMissing tree)).run.run tree = (.error fault, tree)) ∨
      (∃ missing, (paths.filterM (isMissing tree)).run.run tree = (.ok missing, tree) ∧
        missing ≠ [] ∧ ∃ path ∈ paths, tree.isPresent path = .ok false) ∨
      ∀ path ∈ paths, tree.isPresent path = .ok true := by
  have hkeeps := keepsTree_filterAuxM (keepsTree_isMissing tree) paths [] tree
  rw [List.filterM, run_bind]
  rcases hrun : (paths.filterAuxM (isMissing tree) []).run.run tree with ⟨result, next⟩
  rw [hrun] at hkeeps
  obtain rfl : next = tree := hkeeps
  cases result with
  | error fault => exact Or.inl ⟨fault, rfl⟩
  | ok missing =>
      obtain ⟨hlookups, hmem⟩ := mem_missing_iff hrun
      cases missing with
      | nil =>
          refine Or.inr (Or.inr fun path hpath => ?_)
          obtain ⟨present, hpresent⟩ := hlookups path hpath
          cases present with
          | true => exact hpresent
          | false => exact absurd ((hmem path).mpr (Or.inr ⟨hpath, hpresent⟩)) List.not_mem_nil
      | cons path rest =>
          refine Or.inr (Or.inl ⟨_, rfl, by simp, path, ?_⟩)
          simpa using (hmem path).mp List.mem_cons_self

/-- Where all paths lead somewhere, none is missed. -/
lemma run_missing_of_found {tree : FileTree} {paths : List Path}
    (h : ∀ path ∈ paths, tree.isPresent path = .ok true) :
    (paths.filterM (isMissing tree)).run.run tree = (.ok [], tree) := by
  have hnone : (paths.filterAuxM (isMissing tree) []).run.run tree = (.ok [], tree) := by
    induction paths with
    | nil => rfl
    | cons path rest ih =>
        rw [List.forall_mem_cons] at h
        rw [List.filterAuxM, run_bind, run_map, h.1]
        exact ih h.2
  rw [List.filterM, run_bind, hnone]
  rfl

/-! ### The vocabulary -/

/-- The vocabulary that a command uses: the default one, or that of the given file. -/
def Options.Uses (options : Options) (tree : FileTree) (vocabulary : Vocabulary) : Prop :=
  options.vocabulary = .absent ∧ vocabulary = .default ∨
    ∃ path, options.vocabulary = .given path ∧ tree.loadVocabulary path = .ok vocabulary

/-- A vocabulary that cannot be loaded. -/
def Options.LacksVocabulary (options : Options) (tree : FileTree) : Prop :=
  ∃ path fault, options.vocabulary = .given path ∧ tree.loadVocabulary path = .error fault

variable {env : Environment} {options : Options} {tree : FileTree} {vocabulary : Vocabulary}
  {notices : List Notice}

/-- Once all paths are found, the vocabulary decides how a command goes on. -/
lemma run_runOptions (env : Environment)
    (hfound : ∀ path ∈ options.paths, tree.isPresent path = .ok true) :
    (runOptions env options).run.run tree =
      match (CommandM.valueOf .vocabulary options.vocabulary).run.run tree with
      | (.error fault, _) => (.error fault, tree)
      | (.ok path, _) =>
        match commandVocabulary tree path with
        | .error reason => (.ok (.failed [] reason), tree)
        | .ok (vocabulary, notices) =>
          if options.regions then (runRegions env options vocabulary notices).run.run tree
          else (runReport env options vocabulary notices).run.run tree := by
  rw [runOptions, run_bind, run_get]
  simp only
  rw [run_bind, run_missing_of_found hfound]
  simp only [List.isEmpty_nil, Bool.not_true, Bool.false_eq_true, if_false]
  rw [run_bind]
  cases options.vocabulary with
  | blank => rfl
  | absent =>
      simp only [CommandM.valueOf, run_pure, commandVocabulary]
      split_ifs <;> rfl
  | given path =>
      simp only [CommandM.valueOf, run_pure, commandVocabulary]
      cases tree.loadVocabulary path with
      | error fault => rfl
      | ok vocabulary =>
          simp only
          split_ifs <;> rfl

/-- A command that has its vocabulary goes on to regions or a report. -/
lemma Options.Uses.run_runOptions (huses : options.Uses tree vocabulary) (env : Environment)
    (hfound : ∀ path ∈ options.paths, tree.isPresent path = .ok true) :
    ∃ notices, (runOptions env options).run.run tree =
      if options.regions then (runRegions env options vocabulary notices).run.run tree
      else (runReport env options vocabulary notices).run.run tree := by
  rw [SourceLayers.run_runOptions env hfound]
  rcases huses with ⟨habsent, rfl⟩ | ⟨path, hgiven, hload⟩
  · rw [habsent]
    exact ⟨[], rfl⟩
  · rw [hgiven]
    simp only [CommandM.valueOf, run_pure, commandVocabulary, hload]
    exact ⟨_, rfl⟩

/-- A command that lacks its vocabulary is refused. -/
lemma Options.LacksVocabulary.run_runOptions (hlacks : options.LacksVocabulary tree)
    (env : Environment) (hfound : ∀ path ∈ options.paths, tree.isPresent path = .ok true) :
    ∃ reason, (runOptions env options).run.run tree = (.ok (.failed [] reason), tree) := by
  obtain ⟨path, fault, hgiven, hload⟩ := hlacks
  rw [SourceLayers.run_runOptions env hfound, hgiven]
  simp only [CommandM.valueOf, run_pure, commandVocabulary, hload]
  exact ⟨_, rfl⟩

/-- **What a command comes to**: a fault or a refusal, both with the tree as it was, or regions or a
report. -/
lemma runOptions_cases (env : Environment) (options : Options) (tree : FileTree) :
    (∃ fault, (runOptions env options).run.run tree = (.error fault, tree)) ∨
    (∃ reason, (runOptions env options).run.run tree = (.ok (.failed [] reason), tree) ∧
      ((∃ path ∈ options.paths, tree.isPresent path = .ok false) ∨
        options.LacksVocabulary tree)) ∨
    ∃ vocabulary notices, (∀ path ∈ options.paths, tree.isPresent path = .ok true) ∧
      options.Uses tree vocabulary ∧
      (runOptions env options).run.run tree =
        if options.regions then (runRegions env options vocabulary notices).run.run tree
        else (runReport env options vocabulary notices).run.run tree := by
  rcases run_missing_cases tree options.paths with ⟨fault, hrun⟩ | ⟨missing, hrun, hsome, hlost⟩ |
    hfound
  · refine Or.inl ⟨fault, ?_⟩
    rw [runOptions, run_bind, run_get]
    simp only
    rw [run_bind, hrun]
  · have hrefused : ∃ reason,
        (runOptions env options).run.run tree = (.ok (.failed [] reason), tree) := by
      rw [runOptions, run_bind, run_get]
      simp only
      rw [run_bind, hrun]
      simp only [List.isEmpty_eq_false_iff.mpr hsome, Bool.not_false, if_true]
      exact ⟨_, rfl⟩
    obtain ⟨reason, hrun⟩ := hrefused
    exact Or.inr (Or.inl ⟨reason, hrun, Or.inl hlost⟩)
  · cases hsetting : options.vocabulary with
    | blank =>
        rw [run_runOptions env hfound, hsetting]
        exact Or.inl ⟨_, rfl⟩
    | absent =>
        have huses : options.Uses tree .default := Or.inl ⟨hsetting, rfl⟩
        obtain ⟨notices, hrun⟩ := huses.run_runOptions env hfound
        exact Or.inr (Or.inr ⟨_, notices, hfound, huses, hrun⟩)
    | given path =>
        cases hload : tree.loadVocabulary path with
        | error fault =>
            have hlacks : options.LacksVocabulary tree := ⟨path, fault, hsetting, hload⟩
            obtain ⟨reason, hrun⟩ := hlacks.run_runOptions env hfound
            exact Or.inr (Or.inl ⟨reason, hrun, Or.inr hlacks⟩)
        | ok vocabulary =>
            have huses : options.Uses tree vocabulary := Or.inr ⟨path, hsetting, hload⟩
            obtain ⟨notices, hrun⟩ := huses.run_runOptions env hfound
            exact Or.inr (Or.inr ⟨_, notices, hfound, huses, hrun⟩)

/-! ### Regions -/

/-- What the regions of a single file come to. -/
lemma run_runRegions_file {path : Path} (hpaths : options.paths = [path])
    (hfile : tree.isFile path = .ok true) (env : Environment) (vocabulary : Vocabulary)
    (notices : List Notice) :
    (runRegions env options vocabulary notices).run.run tree =
      (match tree.readText path with
        | .error fault =>
          .ok (.failed notices ("cannot read " ++ path.render ++ ": " ++ fault.message))
        | .ok text =>
          match classify vocabulary env.parse text with
          | .error fault => .error (.batch (.offset fault))
          | .ok result => .ok (regionsOutput env path notices result), tree) := by
  rw [runRegions, run_bind, run_get]
  simp only [hpaths, hfile, CommandM.ofFile]
  rw [run_bind, run_pure]
  simp only [if_true]
  cases tree.readText path with
  | error fault => rfl
  | ok text =>
      simp only
      cases classify vocabulary env.parse text <;> rfl

/-- Without a single path there are no regions. -/
lemma run_runRegions_paths (hpaths : ∀ path, options.paths ≠ [path]) :
    (runRegions env options vocabulary notices).run.run tree =
      (.ok (.failed notices "--regions takes exactly one file"), tree) := by
  rw [runRegions, run_bind, run_get]
  match hoptions : options.paths with
  | [] => rfl
  | [path] => exact absurd hoptions (hpaths path)
  | first :: second :: rest => rfl

lemma isFile_of_readText {path : Path} {text : List Char} (h : tree.readText path = .ok text) :
    tree.isFile path = .ok true := by
  rw [FileTree.readText] at h
  cases hread : tree.read path with
  | error error => rw [hread] at h; cases h
  | ok octets => exact FileTree.isFile_eq_true_iff.mpr ⟨octets, hread⟩

/-- Regions leave the tree as it is. They are refused where there is not a single file, or its text
cannot be read. -/
lemma runRegions_cases (env : Environment) (options : Options) (vocabulary : Vocabulary)
    (notices : List Notice) (tree : FileTree) :
    (∃ fault, (runRegions env options vocabulary notices).run.run tree = (.error fault, tree)) ∨
    (∃ reason, (runRegions env options vocabulary notices).run.run tree =
        (.ok (.failed notices reason), tree) ∧
      ¬ ∃ path text, options.paths = [path] ∧ tree.readText path = .ok text) ∨
    ∃ path text result, options.paths = [path] ∧ tree.readText path = .ok text ∧
      (runRegions env options vocabulary notices).run.run tree =
        (.ok (regionsOutput env path notices result), tree) := by
  by_cases hpaths : ∀ path, options.paths ≠ [path]
  · refine Or.inr (Or.inl ⟨_, run_runRegions_paths hpaths, ?_⟩)
    rintro ⟨path, -, hpath, -⟩
    exact hpaths path hpath
  push Not at hpaths
  obtain ⟨path, hpath⟩ := hpaths
  have hrefused : ∀ reason, (∀ text, tree.readText path ≠ .ok text) →
      (runRegions env options vocabulary notices).run.run tree =
        (.ok (.failed notices reason), tree) →
      ∃ reason, (runRegions env options vocabulary notices).run.run tree =
          (.ok (.failed notices reason), tree) ∧
        ¬ ∃ path text, options.paths = [path] ∧ tree.readText path = .ok text := by
    intro reason htext hrun
    refine ⟨reason, hrun, ?_⟩
    rintro ⟨other, text, hother, hread⟩
    rw [hpath] at hother
    cases hother
    exact htext text hread
  cases hfile : tree.isFile path with
  | error error =>
      refine Or.inl ⟨.batch (.file error), ?_⟩
      rw [runRegions, run_bind, run_get]
      simp only [hpath, hfile, CommandM.ofFile]
      rfl
  | ok isFile =>
      cases isFile with
      | false =>
          refine Or.inr (Or.inl (hrefused "--regions takes exactly one file" ?_ ?_))
          · intro text hread
            rw [isFile_of_readText hread] at hfile
            cases hfile
          · rw [runRegions, run_bind, run_get]
            simp only [hpath, hfile, CommandM.ofFile]
            rfl
      | true =>
          rw [run_runRegions_file hpath hfile] at hrefused ⊢
          cases hread : tree.readText path with
          | error fault =>
              rw [hread] at hrefused
              exact Or.inr (Or.inl (hrefused _ (by simp) rfl))
          | ok text =>
              simp only
              cases hresult : classify vocabulary env.parse text with
              | error fault => exact Or.inl ⟨_, rfl⟩
              | ok result => exact Or.inr (Or.inr ⟨path, text, result, hpath, hread, rfl⟩)

/-! ### Reports -/

/-- The place of the file that an option names. -/
def Setting.places : Setting Path → List Place
  | .given path => [path.place]
  | _ => []

lemma Setting.mem_places {setting : Setting Path} {place : Place} :
    place ∈ setting.places ↔ ∃ path, setting = .given path ∧ place = path.place := by
  cases setting <;> simp [places]

/-- The places of the files that a command is asked to write. -/
def Options.targets (options : Options) : List Place :=
  options.sidecarOut.places ++ options.reportOut.places

/-- Without a sidecar a batch writes nothing. -/
lemma keepsTree_runBatch {batch : BatchOptions} (h : batch.sidecar = none) (env : Environment) :
    KeepsTree (runBatch env batch) := by
  intro tree
  rw [run_runBatch, h]
  cases reportBatch env batch tree <;> rfl

lemma changesOnly_storeSidecar (env : Environment) (options : Options) (report : BatchReport) :
    ChangesOnly options.targets (storeSidecar env options report) := by
  rw [storeSidecar]
  cases hsetting : options.sidecarOut with
  | absent => exact changesOnly_pure report
  | blank => exact changesOnly_throw _
  | given path =>
      refine ChangesOnly.mono ((changesOnly_storeRecords env report path _).adapt _) ?_
      rw [Options.targets, hsetting]
      exact List.subset_append_left _ _

lemma changesOnly_storeReport (options : Options) (report : BatchReport) :
    ChangesOnly options.targets (storeReport options report) := by
  rw [storeReport]
  cases hsetting : options.reportOut with
  | absent => exact changesOnly_pure none
  | blank => exact changesOnly_throw _
  | given path =>
      have hsave : ChangesOnly options.targets
          (CommandM.ofBatch (BatchM.ofStore (saveJson report.toJson path true))) := by
        refine ChangesOnly.mono (((changesOnly_saveJson _ path true).adapt _).adapt _) ?_
        rw [Options.targets, hsetting]
        exact List.subset_append_right _ _
      exact hsave.bind fun _ => changesOnly_pure (some path)

/-- A report writes no other files than those it is asked for. -/
lemma changesOnly_runReport (env : Environment) (options : Options) (vocabulary : Vocabulary)
    (notices : List Notice) :
    ChangesOnly options.targets (runReport env options vocabulary notices) := by
  refine ((keepsTree_commandSuffixes options).changesOnly _).bind fun suffixes => ?_
  refine ((keepsTree_valueOf .limit options.limit).changesOnly _).bind fun limit => ?_
  refine (((keepsTree_runBatch rfl env).changesOnly _).adapt _).bind fun report => ?_
  refine (changesOnly_storeSidecar env options report).bind fun report => ?_
  exact (changesOnly_storeReport options report).bind fun _ => changesOnly_pure _

/-- A report that is finished is a success. -/
lemma exit_of_runReport {output : Output} {after : FileTree}
    (h : (runReport env options vocabulary notices).run.run tree = (.ok output, after)) :
    output.exit = 0 := by
  obtain ⟨suffixes, _, -, h⟩ := run_bind_eq_ok h
  obtain ⟨limit, _, -, h⟩ := run_bind_eq_ok h
  obtain ⟨report, _, -, h⟩ := run_bind_eq_ok h
  obtain ⟨report, _, -, h⟩ := run_bind_eq_ok h
  obtain ⟨reportOut, _, -, h⟩ := run_bind_eq_ok h
  cases h
  rfl

/-! ### Whole commands -/

/-- A command that is refused: some path leads nowhere, or the vocabulary cannot be loaded, or
regions are wanted and there is not a single file, or one whose text cannot be read. -/
def Options.Refused (options : Options) (tree : FileTree) : Prop :=
  (∃ path ∈ options.paths, tree.isPresent path = .ok false) ∨ options.LacksVocabulary tree ∨
    options.regions = true ∧ ¬ ∃ path text, options.paths = [path] ∧ tree.readText path = .ok text

lemma run_runCommand {arguments : List String} (h : Options.parse arguments = .ok options)
    (env : Environment) (tree : FileTree) :
    (runCommand env arguments).run.run tree =
      (((runOptions env options).run.run tree).1.map (Output.showing · options.verbose),
        ((runOptions env options).run.run tree).2) := by
  rw [runCommand, h]
  exact run_map _ _ tree

lemma Options.Uses.not_lacksVocabulary (h : options.Uses tree vocabulary) :
    ¬ options.LacksVocabulary tree := by
  rintro ⟨path, fault, hpath, hfault⟩
  rcases h with ⟨habsent, -⟩ | ⟨other, hother, hload⟩
  · rw [habsent] at hpath
    cases hpath
  · rw [hother] at hpath
    cases hpath
    rw [hload] at hfault
    cases hfault

/-- Where a command goes on to regions or a report, only regions may still be refused. -/
lemma refused_iff (hfound : ∀ path ∈ options.paths, tree.isPresent path = .ok true)
    (huses : options.Uses tree vocabulary) :
    options.Refused tree ↔ options.regions = true ∧
      ¬ ∃ path text, options.paths = [path] ∧ tree.readText path = .ok text := by
  have hnone : ¬ ∃ path ∈ options.paths, tree.isPresent path = .ok false := by
    rintro ⟨path, hpath, hlost⟩
    rw [hfound path hpath] at hlost
    cases hlost
  rw [Options.Refused, or_iff_right hnone, or_iff_right huses.not_lacksVocabulary]

/-- What a command may leave: where regions are wanted the tree as it was, and else one that differs
from it in the files to be written. -/
structure Options.Leaves (options : Options) (tree after : FileTree) : Prop where
  touches : Touches options.targets tree after
  regions : options.regions = true → after = tree

lemma Options.Leaves.refl (options : Options) (tree : FileTree) : options.Leaves tree tree :=
  ⟨Touches.refl _ tree, fun _ => rfl⟩

/-- What comes of a command: a fault, or a refusal with the tree as it was, or a success. -/
lemma runOptions_effects (env : Environment) (options : Options) (tree : FileTree) :
    (∃ fault after, (runOptions env options).run.run tree = (.error fault, after) ∧
      options.Leaves tree after) ∨
    (∃ reason notices,
      (runOptions env options).run.run tree = (.ok (.failed notices reason), tree) ∧
      options.Refused tree) ∨
    ∃ output after, (runOptions env options).run.run tree = (.ok output, after) ∧ output.exit = 0 ∧
      ¬ options.Refused tree ∧ options.Leaves tree after := by
  rcases runOptions_cases env options tree with ⟨fault, hrun⟩ | ⟨reason, hrun, hrefused⟩ |
    ⟨vocabulary, notices, hfound, huses, hrun⟩
  · exact Or.inl ⟨fault, tree, hrun, .refl options tree⟩
  · refine Or.inr (Or.inl ⟨reason, [], hrun, ?_⟩)
    rcases hrefused with hlost | hlacks
    · exact Or.inl hlost
    · exact Or.inr (Or.inl hlacks)
  rw [hrun, refused_iff hfound huses]
  cases hregions : options.regions with
  | true =>
      simp only [if_true, true_and]
      rcases runRegions_cases env options vocabulary notices tree with ⟨fault, hrun⟩ |
        ⟨reason, hrun, hrefused⟩ | ⟨path, text, result, hpath, hread, hrun⟩
      · exact Or.inl ⟨fault, tree, hrun, .refl options tree⟩
      · exact Or.inr (Or.inl ⟨reason, notices, hrun, hrefused⟩)
      · exact Or.inr (Or.inr ⟨_, tree, hrun, rfl, fun h => h ⟨path, text, hpath, hread⟩,
          .refl options tree⟩)
  | false =>
      simp only [Bool.false_eq_true, if_false, false_and, not_false_iff, true_and]
      have hleaves :
          options.Leaves tree ((runReport env options vocabulary notices).run.run tree).2 :=
        ⟨changesOnly_runReport env options vocabulary notices tree,
          fun h => absurd h (by rw [hregions]; decide)⟩
      rcases hreport : (runReport env options vocabulary notices).run.run tree with ⟨result, after⟩
      rw [hreport] at hleaves
      cases result with
      | error fault => exact Or.inl ⟨fault, after, rfl, hleaves⟩
      | ok output => exact Or.inr (Or.inr ⟨output, after, rfl, exit_of_runReport hreport, hleaves⟩)

/-- **A command that is refused has no effect.** For every command line that gives options, and
every tree: the exit code is one exactly if the command is refused, and then nothing is printed and
the tree is as it was. Where regions are wanted the tree is as it was, whatever comes of the
command. Otherwise no file differs from before except those that take the records and the report. -/
theorem command_effects (env : Environment) {arguments : List String} {options : Options}
    (hparse : Options.parse arguments = .ok options) (tree : FileTree) :
    ∃ result after, (runCommand env arguments).run.run tree = (result, after) ∧
      (∀ output, result = .ok output →
        (output.exit = 0 ∨ output.exit = 1) ∧ (output.exit = 1 ↔ options.Refused tree) ∧
        (output.exit = 1 → output.printed = "" ∧ after = tree)) ∧
      (options.regions = true → after = tree) ∧
      ∀ place, (∀ path, options.sidecarOut = .given path → place ≠ path.place) →
        (∀ path, options.reportOut = .given path → place ≠ path.place) →
        after.fileAt? place = tree.fileAt? place := by
  have hfiles : ∀ after, options.Leaves tree after → ∀ place,
      (∀ path, options.sidecarOut = .given path → place ≠ path.place) →
      (∀ path, options.reportOut = .given path → place ≠ path.place) →
      after.fileAt? place = tree.fileAt? place := by
    intro after hleaves place hsidecar hreport
    refine hleaves.touches.files place fun htarget => ?_
    rcases List.mem_append.mp htarget with hmem | hmem
    · obtain ⟨path, hgiven, hplace⟩ := Setting.mem_places.mp hmem
      exact hsidecar path hgiven hplace
    · obtain ⟨path, hgiven, hplace⟩ := Setting.mem_places.mp hmem
      exact hreport path hgiven hplace
  rw [run_runCommand hparse]
  rcases runOptions_effects env options tree with ⟨fault, after, hrun, hleaves⟩ |
    ⟨reason, notices, hrun, hrefused⟩ | ⟨output, after, hrun, hexit, hrefused, hleaves⟩
  · rw [hrun]
    exact ⟨_, after, rfl, fun output h => (by cases h), hleaves.regions, hfiles after hleaves⟩
  · rw [hrun]
    refine ⟨_, tree, rfl, ?_, fun _ => rfl, fun _ _ _ => rfl⟩
    rintro output ⟨⟩
    exact ⟨Or.inr rfl, iff_of_true rfl hrefused, fun _ => ⟨rfl, rfl⟩⟩
  · rw [hrun]
    refine ⟨_, after, rfl, ?_, hleaves.regions, hfiles after hleaves⟩
    rintro _ ⟨⟩
    have hshown : (output.showing options.verbose).exit = 0 := hexit
    rw [hshown]
    exact ⟨Or.inl rfl, iff_of_false (by decide) hrefused, fun h => absurd h (by decide)⟩

/-- A file beside a directory that is no vocabulary. -/
def markedTree : FileTree :=
  .ofEntries [⟨"", ["names"]⟩] [(⟨"", ["a.tsx"]⟩, [97, 10])]

/-- A command line that asks for files to be written, with a vocabulary that cannot be loaded. -/
def lackingArguments : List String :=
  ["a.tsx", "--vocabulary", "names", "--sidecar-out=out/records.jsonl", "--overwrite-sidecar",
    "--report-out", "a.tsx", "--json"]

/-- The exit code of a command that came to its end. -/
def exitCode? : Except CommandFault Output × FileTree → Option Nat
  | (.ok output, _) => some output.exit
  | (.error _, _) => none

/-- The vocabulary cannot be loaded, so nothing is printed and none of the files is written. -/
theorem command_effects_lacking :
    (∃ options, Options.parse lackingArguments = .ok options) ∧
      ∃ output, (runCommand bareEnvironment lackingArguments).run.run markedTree =
          (.ok output, markedTree) ∧ output.exit = 1 ∧ output.printed = "" := by
  obtain ⟨options, hparse, -⟩ := exists_of_any (show
    (Options.parse lackingArguments).toOption.any (fun _ => true) = true by decide +kernel)
  obtain ⟨result, after, hrun, houtput, -⟩ := command_effects bareEnvironment hparse markedTree
  have hexit : exitCode? ((runCommand bareEnvironment lackingArguments).run.run markedTree) =
      some 1 := by decide +kernel
  rw [hrun] at hexit
  cases result with
  | error fault => cases hexit
  | ok output =>
      have hone : output.exit = 1 := Option.some_inj.mp hexit
      obtain ⟨hprinted, rfl⟩ := (houtput output rfl).2.2 hone
      exact ⟨⟨options, hparse⟩, output, hrun, hone, hprinted⟩

end SourceLayers
