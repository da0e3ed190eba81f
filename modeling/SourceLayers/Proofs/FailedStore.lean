/-
Values that cannot be stored:

* `Json.HoldsWide`: values with a whole number that does not fit in 64 bits. They cannot be written
  (`Json.HoldsWide.writeFault?_ne_none`), nor can they with their fields sorted
  (`Json.HoldsWide.sortFields`);
* `FileTree.MakesDirectories`: between two trees missing directories on a path were made, and
  nothing else. Making them comes to that even where it fails (`makesDirectories_run`);
* `isDirectory_of_makeDirectories`: directories that were made are there, so no file stands on the
  way to them;
* `saveJson_eq_error`, `saveLines_eq_error`: a fault comes before the file is touched.

Main statement: `failed_save_keeps_files`.
-/
import Mathlib.Tactic
import SourceLayers.Proofs.JsonText
import SourceLayers.Proofs.Store

namespace SourceLayers

/-! ### Numbers that do not fit -/

namespace Json

/-- A value that holds a whole number outside of 64 bits, signed or unsigned, at any depth. -/
inductive HoldsWide : Json → Prop where
  | int {value : Int} (h : value < -2 ^ 63 ∨ 2 ^ 64 ≤ value) : HoldsWide (.int value)
  | arr {items : List Json} {item : Json} (hmem : item ∈ items) (h : HoldsWide item) :
    HoldsWide (.arr items)
  | obj {fields : List (String × Json)} {name : String} {value : Json}
    (hmem : (name, value) ∈ fields) (h : HoldsWide value) : HoldsWide (.obj fields)

variable {value item : Json} {items : List Json} {fields : List (String × Json)} {name : String}

lemma HoldsWide.writeFault?_ne_none (h : value.HoldsWide) (levels : Nat) :
    value.writeFault? levels ≠ none := by
  induction h generalizing levels with
  | int hwide =>
      rw [writeFault?, if_neg]
      · simp
      · simp [intFits64]
        omega
  | arr hmem _ ih =>
      rw [writeFault?]
      split_ifs
      · simp
      · exact fun hnone => ih _ (writeFaultItems?_eq_none_iff.mp hnone _ hmem)
  | obj hmem _ ih =>
      rw [writeFault?]
      split_ifs
      · simp
      · exact fun hnone => ih _ (writeFaultFields?_eq_none_iff.mp hnone _ hmem)

lemma sortFieldsItems_eq_map (items : List Json) :
    sortFieldsItems items = items.map Json.sortFields := by
  induction items with
  | nil => rfl
  | cons item rest ih => rw [sortFieldsItems, ih, List.map_cons]

lemma sortFieldsFields_eq_map (fields : List (String × Json)) :
    sortFieldsFields fields = fields.map fun field => (field.1, field.2.sortFields) := by
  induction fields with
  | nil => rfl
  | cons field rest ih => rw [sortFieldsFields, ih, List.map_cons]

/-- Sorting its fields leaves a value its numbers. -/
lemma HoldsWide.sortFields (h : value.HoldsWide) : value.sortFields.HoldsWide := by
  induction h with
  | int hwide => exact .int hwide
  | arr hmem _ ih =>
      rw [Json.sortFields, sortFieldsItems_eq_map]
      exact .arr (List.mem_map_of_mem hmem) ih
  | obj hmem _ ih =>
      rw [Json.sortFields, sortFieldsFields_eq_map]
      exact .obj (List.mem_mergeSort.mpr (List.mem_map_of_mem hmem)) ih

end Json

/-! ### Directories that are made -/

namespace FileTree

variable {tree next after : FileTree} {path : Path} {place : Place}

/-- Between two trees missing directories on a path were made, and nothing else. -/
def MakesDirectories (path : Path) (old new : FileTree) : Prop :=
  ∀ place, new.entryAt? place = old.entryAt? place ∨
    old.entryAt? place = none ∧ new.entryAt? place = some .directory ∧
      ∃ parts, parts <+: path.parts ∧ place = Path.place { path with parts }

lemma MakesDirectories.refl (path : Path) (tree : FileTree) : MakesDirectories path tree tree :=
  fun _ => Or.inl rfl

lemma MakesDirectories.trans (h : MakesDirectories path tree next)
    (h' : MakesDirectories path next after) : MakesDirectories path tree after := by
  intro place
  rcases h place with hsame | ⟨hnone, hmade, hwhere⟩
  · rw [← hsame]
    exact h' place
  · rcases h' place with hsame' | ⟨hnone', -⟩
    · exact Or.inr ⟨hnone, hsame'.trans hmade, hwhere⟩
    · rw [hmade] at hnone'
      cases hnone'

/-- Directories come in no file's place. -/
lemma MakesDirectories.fileAt?_eq (h : MakesDirectories path tree after) (place : Place) :
    after.fileAt? place = tree.fileAt? place := by
  rcases h place with hsame | ⟨hnone, hmade, -⟩
  · exact fileAt?_congr hsame
  · rw [fileAt?_eq_none_iff.mpr (Or.inl hnone), fileAt?_eq_none_iff.mpr (Or.inr hmade)]

lemma makesDirectories_makeDirectory {parts : List String} (hparts : parts <+: path.parts)
    (h : tree.makeDirectory { path with parts } = .ok next) : MakesDirectories path tree next := by
  obtain ⟨-, hnone, rfl⟩ := makeDirectory_eq_ok_iff.mp h
  intro place
  rw [entryAt?_put tree (names_ne_nil (by rw [hnone]; simp))]
  by_cases hplace : place = Path.place { path with parts }
  · rw [if_pos hplace, hplace]
    exact Or.inr ⟨hnone, rfl, parts, hparts, rfl⟩
  · rw [if_neg hplace]
    exact Or.inl rfl

/-- Whatever leads to a directory leads through directories. -/
lemma entryAt?_of_isDirectory (h : tree.isDirectory path = .ok true) {parts : List String}
    (hparts : parts <+: path.parts) :
    tree.entryAt? (Path.place { path with parts }) = some .directory := by
  obtain ⟨hlocate, hentry⟩ := isDirectory_eq_true_iff.mp h
  obtain ⟨-, -, hfrom⟩ := locate_eq_ok_iff.mp hlocate
  obtain ⟨rest, hrest⟩ := hparts
  rw [← hrest, locateFrom_append] at hfrom
  obtain ⟨found, hfound, hfrom⟩ := except_bind_eq_ok.mp hfrom
  obtain rfl := follow_of_locateFrom hfound
  cases rest with
  | nil =>
      rw [List.append_nil] at hrest
      subst hrest
      exact hentry
  | cons name rest => exact (locateFrom_cons hfrom).1

end FileTree

open FileTree (MakesDirectories)

variable {tree made after : FileTree} {path : Path}

/-- Making the directories on a path makes some that are missing, whatever comes of it. -/
lemma makesDirectories_run (path : Path) (tree : FileTree) :
    MakesDirectories path tree ((makeDirectories path).run.run tree).2 :=
  run_makeDirectories_snd (R := MakesDirectories path) (.refl path) .trans
    (fun _ _ _ hparts hmake => FileTree.makesDirectories_makeDirectory hparts hmake) tree

lemma isDirectory_of_makeDirectory (h : tree.makeDirectory path = .ok made) :
    made.isDirectory path = .ok true := by
  obtain ⟨hlocate, hnone, hmade⟩ := FileTree.makeDirectory_eq_ok_iff.mp h
  refine FileTree.isDirectory_eq_true_iff.mpr
    ⟨FileTree.locate_of_directories (touches_makeDirectory h).directories hlocate, ?_⟩
  rw [hmade, FileTree.entryAt?_put tree (FileTree.names_ne_nil (by rw [hnone]; simp)), if_pos rfl]

lemma path_of_makeDirectory {error : FileError} (h : tree.makeDirectory path = .error error) :
    error.path = path := by
  rw [FileTree.makeDirectory] at h
  split at h
  · cases h
    rfl
  · split at h
    · cases h
      rfl
    · cases h

/-- A directory that could not be made and was not needed is there. -/
lemma isDirectory_of_acceptPresent {error : FileError}
    (hmake : tree.makeDirectory path = .error error)
    (h : (acceptPresent tree error).run.run tree = (.ok (), made)) :
    made.isDirectory path = .ok true := by
  rw [acceptPresent] at h
  split at h
  · cases h
  · rename_i hdirectory _
    cases h
    rwa [path_of_makeDirectory hmake] at hdirectory
  · cases h
  · cases h

lemma isDirectory_of_makeLast (h : (makeLast path).run.run tree = (.ok (), made)) :
    made.isDirectory path = .ok true := by
  rw [makeLast, run_bind, run_get] at h
  simp only at h
  cases hnext : tree.makeDirectory path with
  | ok next =>
      rw [hnext] at h
      cases h
      exact isDirectory_of_makeDirectory hnext
  | error error =>
      simp only [hnext] at h
      split_ifs at h
      · cases h
      · exact isDirectory_of_acceptPresent hnext h

/-- A directory that was made with its parents is there. -/
lemma isDirectory_of_makeDirectories (h : (makeDirectories path).run.run tree = (.ok (), made)) :
    made.isDirectory path = .ok true := by
  have hpath : path = { path with parts := path.parts.reverse.reverse } := by
    rw [List.reverse_reverse]
  rw [makeDirectories] at h
  rw [hpath]
  cases hparts : path.parts.reverse with
  | nil =>
      rw [hparts] at h
      exact isDirectory_of_makeLast h
  | cons part up =>
      rw [hparts, makeAll, run_bind, run_get] at h
      simp only at h
      cases hnext : tree.makeDirectory { path with parts := (part :: up).reverse } with
      | ok next =>
          rw [hnext] at h
          cases h
          exact isDirectory_of_makeDirectory hnext
      | error error =>
          simp only [hnext] at h
          split_ifs at h
          · obtain ⟨_, next, -, hlast⟩ := run_bind_eq_ok h
            exact isDirectory_of_makeLast hlast
          · exact isDirectory_of_acceptPresent hnext h

/-! ### Faults -/

variable {fault : StoreFault}

lemma run_liftStore_eq_error {step : FileTree → Except FileError FileTree}
    (h : (FileTree.liftStore step).run.run tree = (.error fault, after)) : after = tree := by
  rw [run_liftStore] at h
  cases hstep : step tree with
  | ok next =>
      rw [hstep] at h
      cases h
  | error error =>
      rw [hstep] at h
      cases h
      rfl

/-- What follows on the directories when a value is stored in a file. -/
lemma run_saveJson (value : Json) (pretty : Bool)
    (hmade : (makeDirectories path.parent).run.run tree = (.ok (), made)) :
    (saveJson value path pretty).run.run tree =
      match renderChecked (if pretty then Json.pretty else Json.compact) value.sortFields with
      | .error fault => (.error fault, made)
      | .ok text =>
        (FileTree.liftStore fun tree =>
          tree.write path (encodeUtf8 (text ++ ['\n']))).run.run made := by
  rw [saveJson, run_bind, hmade]
  simp only
  rw [run_bind, run_liftM]
  cases renderChecked (if pretty then Json.pretty else Json.compact) value.sortFields <;> rfl

/-- A value that is not stored leaves the tree with the directories that were made for it. -/
lemma saveJson_eq_error {value : Json} {pretty : Bool}
    (h : (saveJson value path pretty).run.run tree = (.error fault, after)) :
    after = ((makeDirectories path.parent).run.run tree).2 := by
  rcases hmade : (makeDirectories path.parent).run.run tree with ⟨result, made⟩
  cases result with
  | error other =>
      rw [saveJson, run_bind, hmade] at h
      cases h
      rfl
  | ok _ =>
      rw [run_saveJson value pretty hmade] at h
      split at h
      · cases h
        rfl
      · exact run_liftStore_eq_error h

/-- Values that are not stored leave the tree with the directories that were made for them: the text
of all of them is there before the file is touched. -/
lemma saveLines_eq_error {records : List Json} {keep : Bool}
    (h : (saveLines records path keep).run.run tree = (.error fault, after)) :
    after = ((makeDirectories path.parent).run.run tree).2 := by
  rcases hmade : (makeDirectories path.parent).run.run tree with ⟨result, made⟩
  cases result with
  | error other =>
      rw [saveLines, run_bind, hmade] at h
      cases h
      rfl
  | ok _ =>
      rw [run_saveLines records path keep hmade] at h
      by_cases hnone : records = [] ∧ keep = true
      · rw [if_pos hnone] at h
        cases h
      · rw [if_neg hnone] at h
        split at h
        · cases h
          rfl
        · exact run_liftStore_eq_error h

/-- A value that is stored could be written, in a directory and not over one. -/
lemma saveJson_eq_ok {value : Json} {pretty : Bool}
    (h : (saveJson value path pretty).run.run tree = (.ok (), after)) :
    ∃ made, (makeDirectories path.parent).run.run tree = (.ok (), made) ∧
      value.sortFields.writeFault? Json.maxWrittenDepth = none ∧
      made.entryAt? path.place ≠ some .directory := by
  obtain ⟨_, made, hmade, -⟩ := run_bind_eq_ok h
  refine ⟨made, hmade, ?_⟩
  rw [run_saveJson value pretty hmade] at h
  split at h
  · cases h
  · rename_i text htext
    rw [run_liftStore] at h
    split at h
    · rename_i hwrite
      exact ⟨(renderChecked_eq_ok_iff.mp htext).1, (FileTree.write_eq_ok_iff.mp hwrite).2.1⟩
    · cases h

/-- A run that does not succeed has a fault. -/
lemma exists_fault {change : StoreM Unit} (h : ∀ after, change.run.run tree ≠ (.ok (), after)) :
    ∃ fault after, change.run.run tree = (.error fault, after) := by
  rcases hrun : change.run.run tree with ⟨result, after⟩
  cases result with
  | error fault => exact ⟨fault, after, rfl⟩
  | ok _ => exact absurd hrun (h after)

/-- Whether there is a file where the directory of a path, or one above it, should be. -/
def FileTree.FileAbove (tree : FileTree) (path : Path) : Prop :=
  ∃ parts, parts <+: path.parent.parts ∧ tree.isFile { path with parts } = .ok true

/-- There are no directories to be made where a file is. -/
lemma FileTree.FileAbove.makeDirectories_ne_ok (h : tree.FileAbove path) :
    (makeDirectories path.parent).run.run tree ≠ (.ok (), made) := by
  obtain ⟨parts, hparts, hfile⟩ := h
  intro hmade
  obtain ⟨octets, hread⟩ := FileTree.isFile_eq_true_iff.mp hfile
  have hentry := FileTree.fileAt?_eq_some_iff.mp
    ((fileAt?_makeDirectories hmade _).trans (FileTree.read_eq_ok_iff.mp hread).2)
  have hdirectory : made.entryAt? (Path.place { path with parts }) = some .directory :=
    FileTree.entryAt?_of_isDirectory (isDirectory_of_makeDirectories hmade) hparts
  rw [hdirectory] at hentry
  cases hentry

/-- **A failed save keeps all files**: nothing is left of it but directories that were missing
above the path. Saving fails where a whole number does not fit, in whichever record, where the path
is that of a directory, and where a file stands in place of a directory above it. -/
theorem failed_save_keeps_files (tree : FileTree) (path : Path) :
    (∀ value pretty,
      (∀ fault after, (saveJson value path pretty).run.run tree = (.error fault, after) →
        (∀ place, after.fileAt? place = tree.fileAt? place) ∧
          MakesDirectories path.parent tree after) ∧
      (value.HoldsWide ∨ tree.isDirectory path = .ok true ∨ tree.FileAbove path →
        ∃ fault after, (saveJson value path pretty).run.run tree = (.error fault, after))) ∧
    ∀ records keep,
      (∀ fault after, (saveLines records path keep).run.run tree = (.error fault, after) →
        (∀ place, after.fileAt? place = tree.fileAt? place) ∧
          MakesDirectories path.parent tree after) ∧
      ((∃ record ∈ records, record.HoldsWide) ∨
          (tree.isDirectory path = .ok true ∧ ¬ (records = [] ∧ keep = true)) ∨
          tree.FileAbove path →
        ∃ fault after, (saveLines records path keep).run.run tree = (.error fault, after)) := by
  have hmade := makesDirectories_run path.parent tree
  refine ⟨fun value pretty => ⟨fun fault after hrun => ?_, fun hfails => exists_fault ?_⟩,
    fun records keep => ⟨fun fault after hrun => ?_, fun hfails => exists_fault ?_⟩⟩
  · rw [saveJson_eq_error hrun]
    exact ⟨hmade.fileAt?_eq, hmade⟩
  · intro after hrun
    obtain ⟨made, hdirectories, hwritten, hplace⟩ := saveJson_eq_ok hrun
    rcases hfails with hwide | hdirectory | hfile
    · exact hwide.sortFields.writeFault?_ne_none _ hwritten
    · have hkept := (changesOnly_makeDirectories path.parent tree).directories _
        (FileTree.isDirectory_eq_true_iff.mp hdirectory).2
      rw [hdirectories] at hkept
      exact hplace hkept
    · exact hfile.makeDirectories_ne_ok hdirectories
  · rw [saveLines_eq_error hrun]
    exact ⟨hmade.fileAt?_eq, hmade⟩
  · intro after hrun
    rcases hfails with ⟨record, hrecord, hwide⟩ | ⟨hdirectory, hsome⟩ | hfile
    · exact hwide.writeFault?_ne_none _ (writeFault?_of_saveLines hrun record hrecord)
    · have hkept := (changesOnly_saveLines records path keep tree).directories _
        (FileTree.isDirectory_eq_true_iff.mp hdirectory).2
      have hstored := fileAt?_saveLines hrun
      rw [if_neg hsome, FileTree.fileAt?_eq_some_iff] at hstored
      rw [hrun, hstored] at hkept
      cases hkept
    · obtain ⟨_, made, hdirectories, -⟩ := run_bind_eq_ok hrun
      exact hfile.makeDirectories_ne_ok hdirectories

/-- The second of three records has a number out of range, and the log is as it was before the
first. -/
theorem failed_save_keeps_log :
    let tree := FileTree.ofEntries [] [(.ofString "log.jsonl", [0x7b, 0x7d, 0x0a])]
    let records : List Json := [.obj [], .obj [("n", .int (2 ^ 64))], .obj []]
    ∃ fault after,
      (saveLines records (.ofString "log.jsonl") true).run.run tree = (.error fault, after) ∧
        after.fileAt? (Path.place (.ofString "log.jsonl")) = some [0x7b, 0x7d, 0x0a] := by
  intro tree records
  obtain ⟨hkeeps, hfails⟩ :=
    (failed_save_keeps_files tree (.ofString "log.jsonl")).2 records true
  have hwide : (Json.obj [("n", .int (2 ^ 64))]).HoldsWide :=
    .obj List.mem_cons_self (.int (Or.inr le_rfl))
  obtain ⟨fault, after, hrun⟩ := hfails (Or.inl ⟨_, by simp [records], hwide⟩)
  refine ⟨fault, after, hrun, ((hkeeps fault after hrun).1 _).trans ?_⟩
  decide +kernel

end SourceLayers
