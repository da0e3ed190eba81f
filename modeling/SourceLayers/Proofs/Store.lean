/-
What storing does to a tree of files:

* `FileTree.Touches`: between two trees directories stay, and files differ at given places only;
* `ChangesOnly`: a change of a tree touches nothing else, whether it succeeds or fails. It is closed
  under the steps that changes are made of;
* `FileTree.write_eq_ok_iff`, `FileTree.append_eq_ok_iff`: when a file can be written and what the
  tree is then;
* `run_makeDirectories_snd`: making directories is making those on the path that are missing; it
  touches no file (`changesOnly_makeDirectories`);
* `linesText_eq_ok_iff`, `linesOctets`: the text of values, one to a line.

Main statements: `saveLines_cases`, what storing values comes to, with `fileAt?_saveLines` and
`saveLines_fault`, what a file holds after it, and `exists_saveLines`, that values can be stored
where a file can be made.
-/
import Mathlib.Tactic
import SourceLayers.FileTree.Store
import SourceLayers.Proofs.FileTree
import SourceLayers.Proofs.Outcome

namespace SourceLayers

/-! ### What changes -/

namespace FileTree

/-- Between two trees directories stay, and files differ at the given places only. -/
structure Touches (targets : List Place) (old new : FileTree) : Prop where
  directories : ∀ place, old.entryAt? place = some .directory →
    new.entryAt? place = some .directory
  files : ∀ place, place ∉ targets → new.fileAt? place = old.fileAt? place

variable {targets more : List Place} {tree next after : FileTree} {path : Path} {place : Place}
  {octets : List UInt8}

lemma Touches.refl (targets : List Place) (tree : FileTree) : Touches targets tree tree :=
  ⟨fun _ h => h, fun _ _ => rfl⟩

lemma Touches.trans (h : Touches targets tree next) (h' : Touches targets next after) :
    Touches targets tree after :=
  ⟨fun place hplace => h'.directories place (h.directories place hplace),
    fun place hplace => (h'.files place hplace).trans (h.files place hplace)⟩

lemma Touches.mono (h : Touches targets tree next) (hsub : targets ⊆ more) :
    Touches more tree next :=
  ⟨h.directories, fun place hplace => h.files place fun hmem => hplace (hsub hmem)⟩

/-- An origin is a directory. -/
lemma names_ne_nil (h : tree.entryAt? place ≠ some .directory) : place.names ≠ [] := by
  intro hnames
  rw [entryAt?, hnames] at h
  exact h rfl

/-! ### Single files and directories -/

lemma makeDirectory_eq_ok_iff :
    tree.makeDirectory path = .ok next ↔
      tree.locate path = .ok path.place ∧ tree.entryAt? path.place = none ∧
        next = tree.put path.place .directory := by
  rw [makeDirectory]
  cases hlocate : tree.locate path with
  | error cause => simp
  | ok found =>
      obtain rfl := place_of_locate hlocate
      simp only [true_and]
      cases tree.entryAt? path.place <;> simp [eq_comm]

lemma write_eq_ok_iff :
    tree.write path octets = .ok next ↔
      tree.locate path = .ok path.place ∧ tree.entryAt? path.place ≠ some .directory ∧
        next = tree.put path.place (.file octets) := by
  rw [write]
  cases hlocate : tree.locate path with
  | error cause => simp
  | ok found =>
      obtain rfl := place_of_locate hlocate
      simp only [true_and]
      cases tree.entryAt? path.place with
      | none => simp [eq_comm]
      | some entry => cases entry <;> simp [eq_comm]

/-- Octets are put behind those that the file holds, or into a new file. -/
lemma append_eq_ok_iff :
    tree.append path octets = .ok next ↔
      tree.locate path = .ok path.place ∧ tree.entryAt? path.place ≠ some .directory ∧
        next = tree.put path.place (.file ((tree.fileAt? path.place).getD [] ++ octets)) := by
  rw [append]
  cases hread : tree.read path with
  | ok old => rw [write_eq_ok_iff, (read_eq_ok_iff.mp hread).2, Option.getD_some]
  | error error =>
      simp only
      rw [write_eq_ok_iff]
      refine and_congr_right fun hlocate => ?_
      have hnone : tree.fileAt? path.place = none := by
        by_contra hsome
        obtain ⟨old, hold⟩ := Option.ne_none_iff_exists'.mp hsome
        rw [read_eq_ok_iff.mpr ⟨hlocate, hold⟩] at hread
        cases hread
      rw [hnone, Option.getD_none, List.nil_append]

lemma fileAt?_put_self (hplace : tree.entryAt? place ≠ some .directory) (octets : List UInt8) :
    (tree.put place (.file octets)).fileAt? place = some octets := by
  rw [fileAt?_eq_some_iff, entryAt?_put tree (names_ne_nil hplace), if_pos rfl]

/-- A file takes the place of a file or of nothing, and touches nothing else. -/
lemma touches_put_file (hplace : tree.entryAt? place ≠ some .directory) (octets : List UInt8) :
    Touches [place] tree (tree.put place (.file octets)) := by
  refine ⟨fun other hother => ?_, fun other hother => fileAt?_congr ?_⟩
  · rw [entryAt?_put tree (names_ne_nil hplace), if_neg, hother]
    rintro rfl
    exact hplace hother
  · rw [entryAt?_put tree (names_ne_nil hplace), if_neg (by simpa using hother)]

/-- A directory takes the place of nothing, and touches no file. -/
lemma touches_put_directory (hplace : tree.entryAt? place = none) :
    Touches [] tree (tree.put place .directory) := by
  have hnames : place.names ≠ [] := names_ne_nil (by rw [hplace]; simp)
  refine ⟨fun other hother => ?_, fun other _ => ?_⟩
  · rw [entryAt?_put tree hnames, hother, ite_self]
  · by_cases heq : other = place
    · subst heq
      have hnone : tree.fileAt? other = none := fileAt?_eq_none_iff.mpr (Or.inl hplace)
      rw [hnone, fileAt?_eq_none_iff, entryAt?_put tree hnames, if_pos rfl]
      exact Or.inr rfl
    · exact fileAt?_congr (by rw [entryAt?_put tree hnames, if_neg heq])

end FileTree

/-! ### Changes that touch given places -/

open FileTree (Touches)

/-- A change that touches files at the given places only, whatever comes of it. -/
def ChangesOnly {ε α : Type} (targets : List Place) (change : FileM ε α) : Prop :=
  ∀ tree, Touches targets tree (change.run.run tree).2

section ChangesOnly

variable {ε ε' α β : Type} {targets : List Place}

lemma changesOnly_pure (a : α) : ChangesOnly targets (pure a : FileM ε α) := fun tree =>
  Touches.refl targets tree

lemma changesOnly_throw (e : ε) : ChangesOnly targets (throw e : FileM ε α) := fun tree =>
  Touches.refl targets tree

lemma ChangesOnly.bind {x : FileM ε α} {f : α → FileM ε β} (hx : ChangesOnly targets x)
    (hf : ∀ a, ChangesOnly targets (f a)) : ChangesOnly targets (x >>= f) :=
  run_bind_snd (R := Touches targets) Touches.trans hx hf

lemma ChangesOnly.adapt {x : FileM ε α} (hx : ChangesOnly targets x) (f : ε → ε') :
    ChangesOnly targets (ExceptT.adapt f x : FileM ε' α) := hx

lemma ChangesOnly.mono {x : FileM ε α} {more : List Place} (hx : ChangesOnly targets x)
    (hsub : targets ⊆ more) : ChangesOnly more x := fun tree => (hx tree).mono hsub

lemma run_liftStore (step : FileTree → Except FileError FileTree) (tree : FileTree) :
    (FileTree.liftStore step).run.run tree =
      match step tree with
      | .ok next => (.ok (), next)
      | .error error => (.error (.file error), tree) := by
  rw [FileTree.liftStore, run_bind, run_get]
  cases h : step tree <;> simp only [h] <;> rfl

lemma changesOnly_liftStore {step : FileTree → Except FileError FileTree}
    (h : ∀ tree next, step tree = .ok next → Touches targets tree next) :
    ChangesOnly targets (FileTree.liftStore step) := by
  intro tree
  rw [run_liftStore]
  cases hstep : step tree with
  | error error => exact Touches.refl targets tree
  | ok next => exact h tree next hstep

end ChangesOnly

/-! ### Directories -/

lemma touches_makeDirectory {tree next : FileTree} {path : Path}
    (h : tree.makeDirectory path = .ok next) : Touches [] tree next := by
  obtain ⟨-, hnone, rfl⟩ := FileTree.makeDirectory_eq_ok_iff.mp h
  exact FileTree.touches_put_directory hnone

lemma run_acceptPresent (tree : FileTree) (error : FileError) (state : FileTree) :
    ((acceptPresent tree error).run.run state).2 = state := by
  rw [acceptPresent]
  split <;> rfl

lemma run_makeLast_snd {R : FileTree → FileTree → Prop} {path : Path}
    (hrefl : ∀ tree, R tree tree)
    (hmake : ∀ tree next, tree.makeDirectory path = .ok next → R tree next) (tree : FileTree) :
    R tree ((makeLast path).run.run tree).2 := by
  rw [makeLast, run_bind, run_get]
  simp only
  cases hnext : tree.makeDirectory path with
  | ok next => exact hmake tree next hnext
  | error error =>
      simp only
      split_ifs
      · exact hrefl tree
      · rw [run_acceptPresent]
        exact hrefl tree

/-- Making directories is making some of those that the first parts of the path name, one after the
other. The induction is on the parts from the last one on, as the parents are made only where the
directory itself could not be. -/
lemma run_makeAll_snd {R : FileTree → FileTree → Prop} {anchor : String} {parts : List String}
    (hrefl : ∀ tree, R tree tree)
    (htrans : ∀ {first second third}, R first second → R second third → R first third)
    (hmake : ∀ up tree next, up <:+ parts →
      tree.makeDirectory { anchor, parts := up.reverse } = .ok next → R tree next)
    (tree : FileTree) : R tree ((makeAll anchor parts).run.run tree).2 := by
  induction parts generalizing tree with
  | nil =>
      have hlast : ∀ tree next,
          tree.makeDirectory { anchor, parts := [] } = .ok next → R tree next :=
        fun tree next => hmake [] tree next (List.suffix_refl [])
      exact run_makeLast_snd hrefl hlast tree
  | cons part up ih =>
      have hlast : ∀ tree next,
          tree.makeDirectory { anchor, parts := (part :: up).reverse } = .ok next → R tree next :=
        fun tree next => hmake _ tree next (List.suffix_refl _)
      rw [makeAll, run_bind, run_get]
      simp only
      cases hnext : tree.makeDirectory { anchor, parts := (part :: up).reverse } with
      | ok next => exact hlast tree next hnext
      | error error =>
          simp only
          split_ifs
          · refine run_bind_snd (R := R) htrans (ih fun above tree next habove => ?_)
              (fun _ => run_makeLast_snd hrefl hlast) tree
            exact hmake above tree next (habove.trans (List.suffix_cons part up))
          · rw [run_acceptPresent]
            exact hrefl tree

/-- What holds between the trees before and after any one of the directories on a path was made
holds between those before and after all that are missing were made. -/
lemma run_makeDirectories_snd {R : FileTree → FileTree → Prop} {path : Path}
    (hrefl : ∀ tree, R tree tree)
    (htrans : ∀ {first second third}, R first second → R second third → R first third)
    (hmake : ∀ parts tree next, parts <+: path.parts →
      tree.makeDirectory { path with parts } = .ok next → R tree next)
    (tree : FileTree) : R tree ((makeDirectories path).run.run tree).2 := by
  refine run_makeAll_snd hrefl htrans (fun up tree next hup hnext => ?_) tree
  refine hmake up.reverse tree next ?_ hnext
  rw [← List.reverse_reverse path.parts, List.reverse_prefix]
  exact hup

/-- Making directories touches no file. -/
lemma changesOnly_makeDirectories (path : Path) : ChangesOnly [] (makeDirectories path) :=
  run_makeDirectories_snd (R := Touches []) (Touches.refl []) Touches.trans
    fun _ _ _ _ hmake => touches_makeDirectory hmake

/-! ### Values -/

lemma run_liftM {α : Type} (result : Except StoreFault α) (tree : FileTree) :
    (liftM result : StoreM α).run.run tree = (result, tree) := by
  cases result <;> rfl

lemma changesOnly_liftM {α : Type} (targets : List Place) (result : Except StoreFault α) :
    ChangesOnly targets (liftM result : StoreM α) := by
  intro tree
  rw [run_liftM]
  exact Touches.refl targets tree

lemma touches_write {tree next : FileTree} {path : Path} {octets : List UInt8}
    (h : tree.write path octets = .ok next) : Touches [path.place] tree next := by
  obtain ⟨-, hplace, rfl⟩ := FileTree.write_eq_ok_iff.mp h
  exact FileTree.touches_put_file hplace octets

lemma touches_append {tree next : FileTree} {path : Path} {octets : List UInt8}
    (h : tree.append path octets = .ok next) : Touches [path.place] tree next := by
  obtain ⟨-, hplace, rfl⟩ := FileTree.append_eq_ok_iff.mp h
  exact FileTree.touches_put_file hplace _

/-- A value is stored in its file and nowhere else. -/
lemma changesOnly_saveJson (value : Json) (path : Path) (pretty : Bool) :
    ChangesOnly [path.place] (saveJson value path pretty) :=
  ((changesOnly_makeDirectories path.parent).mono (List.nil_subset _)).bind fun _ =>
    (changesOnly_liftM _ _).bind fun _ =>
      changesOnly_liftStore fun _ _ hwrite => touches_write hwrite

/-- Values are stored in their file and nowhere else. -/
lemma changesOnly_saveLines (records : List Json) (path : Path) (keep : Bool) :
    ChangesOnly [path.place] (saveLines records path keep) := by
  refine ((changesOnly_makeDirectories path.parent).mono (List.nil_subset _)).bind fun _ => ?_
  split_ifs
  · exact changesOnly_pure _
  · exact changesOnly_liftStore fun _ _ hwrite => touches_write hwrite
  · refine (changesOnly_liftM _ _).bind fun _ => changesOnly_liftStore fun _ _ hstore => ?_
    exact touches_append hstore
  · refine (changesOnly_liftM _ _).bind fun _ => changesOnly_liftStore fun _ _ hstore => ?_
    exact touches_write hstore

/-! ### Lines -/

lemma renderChecked_eq_ok_iff {render : Json → List Char} {value : Json} {text : List Char} :
    renderChecked render value = .ok text ↔
      value.writeFault? Json.maxWrittenDepth = none ∧ text = render value := by
  rw [renderChecked]
  cases value.writeFault? Json.maxWrittenDepth <;> simp [eq_comm]

/-- Values have a text if each of them can be written: their compact forms, with a line feed after
each. -/
lemma linesText_eq_ok_iff {records : List Json} {text : List Char} :
    linesText records = .ok text ↔
      (∀ record ∈ records, record.writeFault? Json.maxWrittenDepth = none) ∧
        text = records.flatMap fun record => record.compact ++ ['\n'] := by
  have hline : ∀ record line, (· ++ ['\n']) <$> renderChecked Json.compact record = .ok line ↔
      record.writeFault? Json.maxWrittenDepth = none ∧ record.compact ++ ['\n'] = line := by
    intro record line
    rw [except_map_eq_ok]
    simp [renderChecked_eq_ok_iff, and_assoc]
  rw [linesText, except_map_eq_ok]
  simp only [mapM_eq_ok_iff, hline]
  constructor
  · rintro ⟨lines, hlines, rfl⟩
    induction hlines with
    | nil => simp
    | cons hfirst _ ih =>
        rw [List.forall_mem_cons, List.flatten_cons, List.flatMap_cons, ih.2, hfirst.2]
        exact ⟨⟨hfirst.1, ih.1⟩, rfl⟩
  · rintro ⟨hfaults, rfl⟩
    refine ⟨records.map fun record => record.compact ++ ['\n'], ?_, rfl⟩
    rw [List.forall₂_map_right_iff, List.forall₂_same]
    exact fun record hrecord => ⟨hfaults record hrecord, rfl⟩

/-! ### A file of lines -/

/-- The octets of values, one to a line. -/
def linesOctets (records : List Json) : List UInt8 :=
  encodeUtf8 (records.flatMap fun record => record.compact ++ ['\n'])

/-- A file can be stored at a path: the directories on the way can be made, and then the path leads
to a file or to nothing. -/
def FileTree.Writable (tree : FileTree) (path : Path) : Prop :=
  ∃ made, (makeDirectories path.parent).run.run tree = (.ok (), made) ∧
    made.locate path = .ok path.place ∧ made.entryAt? path.place ≠ some .directory

instance (tree : FileTree) (path : Path) : Decidable (tree.Writable path) :=
  match hmade : (makeDirectories path.parent).run.run tree with
  | (.ok (), made) =>
    if hplace : made.entryAt? path.place = some .directory then
      isFalse fun ⟨_, hother, _, hnone⟩ => by
        rw [hmade] at hother
        cases hother
        exact hnone hplace
    else
      match hlocate : made.locate path with
      | .ok place => isTrue ⟨made, hmade, by rw [hlocate, FileTree.place_of_locate hlocate], hplace⟩
      | .error cause => isFalse fun ⟨_, hother, hfound, _⟩ => by
          rw [hmade] at hother
          cases hother
          rw [hlocate] at hfound
          cases hfound
  | (.error fault, made) => isFalse fun ⟨_, hother, _⟩ => by
      rw [hmade] at hother
      cases hother

/-- What follows on the directories when values are stored in a file. -/
lemma run_saveLines (records : List Json) (path : Path) (keep : Bool) {tree made : FileTree}
    (hmade : (makeDirectories path.parent).run.run tree = (.ok (), made)) :
    (saveLines records path keep).run.run tree =
      if records = [] ∧ keep then (.ok (), made)
      else
        match linesText records with
        | .error fault => (.error fault, made)
        | .ok text =>
          (FileTree.liftStore fun tree =>
            if keep then tree.append path (encodeUtf8 text)
            else tree.write path (encodeUtf8 text)).run.run made := by
  rw [saveLines, run_bind, hmade]
  cases records with
  | nil => cases keep <;> rfl
  | cons record rest =>
      simp only [List.isEmpty_cons, Bool.false_eq_true, if_false, reduceCtorEq, false_and]
      rw [run_bind, run_liftM]
      cases linesText (record :: rest) <;> rfl

/-- What a file holds before values are added to it, or put in its place. -/
def keptOctets (keep : Bool) (tree : FileTree) (place : Place) : List UInt8 :=
  if keep then (tree.fileAt? place).getD [] else []

/-- The last step in storing values, by what the directories before it left. -/
lemma store_eq_ok_iff {keep : Bool} {path : Path} {octets : List UInt8} {made after : FileTree} :
    (if keep then made.append path octets else made.write path octets) = .ok after ↔
      made.locate path = .ok path.place ∧ made.entryAt? path.place ≠ some .directory ∧
        after = made.put path.place (.file (keptOctets keep made path.place ++ octets)) := by
  cases keep with
  | true => exact FileTree.append_eq_ok_iff
  | false => exact FileTree.write_eq_ok_iff

/-- The last step in storing values succeeds, or changes nothing. -/
lemma run_store_cases (keep : Bool) (path : Path) (octets : List UInt8) (made : FileTree) :
    (∃ error, (FileTree.liftStore fun tree =>
        if keep then tree.append path octets else tree.write path octets).run.run made =
          (.error (.file error), made)) ∨
      made.entryAt? path.place ≠ some .directory ∧
        (FileTree.liftStore fun tree =>
          if keep then tree.append path octets else tree.write path octets).run.run made =
          (.ok (), made.put path.place (.file (keptOctets keep made path.place ++ octets))) := by
  rw [run_liftStore]
  cases hstore : (if keep then made.append path octets else made.write path octets) with
  | error error => exact Or.inl ⟨error, rfl⟩
  | ok next =>
      obtain ⟨-, hplace, rfl⟩ := store_eq_ok_iff.mp hstore
      exact Or.inr ⟨hplace, rfl⟩

variable {records : List Json} {path : Path} {keep : Bool} {tree made after : FileTree}

lemma fileAt?_makeDirectories {result : Except StoreFault Unit}
    (h : (makeDirectories path).run.run tree = (result, made)) (place : Place) :
    made.fileAt? place = tree.fileAt? place := by
  have htouches := changesOnly_makeDirectories path tree
  rw [h] at htouches
  exact htouches.files place List.not_mem_nil

/-- **What storing values comes to**: a fault, or nothing where there are none to be added, or
their lines behind what was kept of the file. The directories that are made on the way touch no
file. -/
lemma saveLines_cases (records : List Json) (path : Path) (keep : Bool) (tree : FileTree) :
    ∃ made, (∀ place, made.fileAt? place = tree.fileAt? place) ∧
      ((∃ fault, (saveLines records path keep).run.run tree = (.error fault, made)) ∨
        ((records = [] ∧ keep = true) ∧
          (saveLines records path keep).run.run tree = (.ok (), made)) ∨
        ¬ (records = [] ∧ keep = true) ∧
          (∀ record ∈ records, record.writeFault? Json.maxWrittenDepth = none) ∧
          made.entryAt? path.place ≠ some .directory ∧
          (saveLines records path keep).run.run tree =
            (.ok (), made.put path.place
              (.file (keptOctets keep tree path.place ++ linesOctets records)))) := by
  rcases hmade : (makeDirectories path.parent).run.run tree with ⟨result, made⟩
  have hfiles := fileAt?_makeDirectories hmade
  refine ⟨made, hfiles, ?_⟩
  cases result with
  | error fault =>
      rw [saveLines, run_bind, hmade]
      exact Or.inl ⟨fault, rfl⟩
  | ok _ =>
      rw [run_saveLines records path keep hmade]
      by_cases hnone : records = [] ∧ keep = true
      · rw [if_pos hnone]
        exact Or.inr (Or.inl ⟨hnone, rfl⟩)
      rw [if_neg hnone]
      cases htext : linesText records with
      | error fault => exact Or.inl ⟨fault, rfl⟩
      | ok text =>
          obtain ⟨hfaults, rfl⟩ := linesText_eq_ok_iff.mp htext
          have hkept : keptOctets keep made path.place = keptOctets keep tree path.place := by
            rw [keptOctets, keptOctets, hfiles]
          rcases run_store_cases keep path (linesOctets records) made with ⟨error, hrun⟩ |
            ⟨hplace, hrun⟩
          · exact Or.inl ⟨_, hrun⟩
          · rw [hkept] at hrun
            exact Or.inr (Or.inr ⟨hnone, hfaults, hplace, hrun⟩)

/-- What a file holds after values were stored in it: nothing changes if there are none to be
added. Otherwise their lines stand behind what was kept of the file. -/
lemma fileAt?_saveLines (h : (saveLines records path keep).run.run tree = (.ok (), after)) :
    after.fileAt? path.place =
      if records = [] ∧ keep then tree.fileAt? path.place
      else
        some (keptOctets keep tree path.place ++ linesOctets records) := by
  obtain ⟨made, hfiles, ⟨fault, hrun⟩ | ⟨hnone, hrun⟩ | ⟨hsome, -, hplace, hrun⟩⟩ :=
    saveLines_cases records path keep tree
  all_goals rw [hrun] at h; cases h
  · rw [if_pos hnone, hfiles]
  · rw [if_neg hsome, FileTree.fileAt?_put_self hplace]

/-- Values that were stored could be written. -/
lemma writeFault?_of_saveLines (h : (saveLines records path keep).run.run tree = (.ok (), after)) :
    ∀ record ∈ records, record.writeFault? Json.maxWrittenDepth = none := by
  obtain ⟨made, -, ⟨fault, hrun⟩ | ⟨hnone, -⟩ | ⟨-, hfaults, -⟩⟩ :=
    saveLines_cases records path keep tree
  · rw [hrun] at h
    cases h
  · rw [hnone.1]
    exact fun record hrecord => absurd hrecord List.not_mem_nil
  · exact hfaults

/-- Values that could not be stored leave all files as they are. -/
lemma saveLines_fault {fault : StoreFault}
    (h : (saveLines records path keep).run.run tree = (.error fault, after)) (place : Place) :
    after.fileAt? place = tree.fileAt? place := by
  obtain ⟨made, hfiles, ⟨fault, hrun⟩ | ⟨-, hrun⟩ | ⟨-, -, -, hrun⟩⟩ :=
    saveLines_cases records path keep tree
  all_goals rw [hrun] at h; cases h
  exact hfiles place

/-- Values that can be written are stored where a file can be. -/
lemma exists_saveLines (keep : Bool) (hpath : tree.Writable path)
    (hrecords : ∀ record ∈ records, record.writeFault? Json.maxWrittenDepth = none) :
    ∃ after, (saveLines records path keep).run.run tree = (.ok (), after) := by
  obtain ⟨made, hmade, hlocate, hplace⟩ := hpath
  rw [run_saveLines records path keep hmade]
  by_cases hnone : records = [] ∧ keep = true
  · rw [if_pos hnone]
    exact ⟨made, rfl⟩
  · rw [if_neg hnone, linesText_eq_ok_iff.mpr ⟨hrecords, rfl⟩]
    simp only [run_liftStore, store_eq_ok_iff.mpr ⟨hlocate, hplace, rfl⟩]
    exact ⟨_, rfl⟩

end SourceLayers
