/-
Trees of files as a disk holds them:

* `IsFileName`: names that a directory can hold;
* `FileTree.Stored`: a well-formed tree with such names and one entry to a place. What stands below
  a directory is found there (`Stored.locateFrom_below`, `Stored.entryAt?_eq`);
* `FileTree.Stored.put`: something new in a directory keeps a tree stored;
* `KeepsStored`: changes of a tree that keep it so, among them `keepsStored_makeDirectories`.

Main statements: `keepsStored_saveJson`, `keepsStored_saveLines` and `stored_ofEntries`, that all
trees that come about by storing at proper paths are stored.
-/
import Mathlib.Tactic
import SourceLayers.Proofs.Ordering
import SourceLayers.Proofs.Selection

namespace SourceLayers

/-- A name that a directory can hold. -/
structure IsFileName (name : String) : Prop where
  slashless : '/' ∉ name.toList
  nullless : ∀ c ∈ name.toList, c.toNat ≠ 0
  short : utf8Length name ≤ maxNameLength

namespace FileTree

/-- A tree as a disk holds it: well-formed, with one entry to a place, and names that directories
can hold. -/
structure Stored (tree : FileTree) : Prop extends tree.WellFormed where
  distinct : (tree.entries.map Prod.fst).Nodup
  named : ∀ entry ∈ tree.entries, entry.1.names ≠ [] ∧ ∀ name ∈ entry.1.names, IsFileName name

variable {tree : FileTree} {place : Place} {entry : Entry} {names : List String}

/-! ### What stands where -/

/-- Entries at distinct places are looked up by them. -/
lemma lookup_of_mem {entries : List (Place × Entry)} (hdistinct : (entries.map Prod.fst).Nodup)
    (h : (place, entry) ∈ entries) : entries.lookup place = some entry := by
  obtain ⟨before, after, rfl⟩ := List.append_of_mem h
  rw [List.map_append, List.nodup_append] at hdistinct
  have habsent : before.lookup place = none := by
    refine List.lookup_eq_none_iff.mpr fun old hold => bne_iff_ne.mpr fun heq => ?_
    exact hdistinct.2.2 old.1 (List.mem_map_of_mem hold) place List.mem_cons_self heq.symm
  rw [List.lookup_append, habsent, List.lookup_cons_self, Option.none_or]

/-- An entry stands at its place. -/
lemma Stored.entryAt?_eq (h : tree.Stored) (hmem : (place, entry) ∈ tree.entries) :
    tree.entryAt? place = some entry := by
  have hnames : ¬ place.names.isEmpty = true := by
    rw [List.isEmpty_iff]
    exact (h.named _ hmem).1
  rw [entryAt?, if_neg hnames, lookup_of_mem h.distinct hmem]

/-- Whatever stands below a place is found there, since there are directories on the way. -/
lemma Stored.locateFrom_below (h : tree.Stored)
    (hentry : tree.entryAt? (place.below names) ≠ none)
    (hnames : ∀ name ∈ names, name ≠ ".." ∧ utf8Length name ≤ maxNameLength) :
    tree.locateFrom place names = .ok (place.below names) := by
  induction names generalizing place with
  | nil => simp [FileTree.locateFrom, Place.below]
  | cons name rest ih =>
      obtain ⟨⟨hpoints, hshort⟩, hrest⟩ := List.forall_mem_cons.mp hnames
      rw [FileTree.locateFrom, h.directory_above hentry]
      simp only [if_neg hpoints, if_neg (not_lt.mpr hshort)]
      rw [← child_below] at hentry ⊢
      exact ih hentry hrest

/-! ### Something new -/

/-- Something new has the one place more, or none if there was something. -/
lemma map_fst_put (tree : FileTree) (place : Place) (entry : Entry) :
    (tree.put place entry).entries.map Prod.fst =
      if place ∈ tree.entries.map Prod.fst then tree.entries.map Prod.fst
      else tree.entries.map Prod.fst ++ [place] := by
  have hany : (tree.entries.any fun old => old.1 == place) = true ↔
      place ∈ tree.entries.map Prod.fst := by
    simp [List.any_eq_true]
  rw [put]
  split_ifs with hold hmem hmem
  · rw [List.map_map]
    refine List.map_congr_left fun old _ => ?_
    rw [Function.comp_apply]
    split_ifs with heq
    · exact (beq_iff_eq.mp heq).symm
    · rfl
  · exact absurd (hany.mp hold) hmem
  · exact absurd (hany.mpr hmem) hold
  · rw [List.map_append, List.map_singleton]

lemma mem_entries_put {other : Place × Entry} (h : other ∈ (tree.put place entry).entries) :
    other.1 = place ∨ ∃ old ∈ tree.entries, old.1 = other.1 := by
  have hmem : other.1 ∈ (tree.put place entry).entries.map Prod.fst := List.mem_map.mpr ⟨_, h, rfl⟩
  rw [map_fst_put] at hmem
  split_ifs at hmem
  · exact Or.inr (List.mem_map.mp hmem)
  · rcases List.mem_append.mp hmem with hold | hnew
    · exact Or.inr (List.mem_map.mp hold)
    · exact Or.inl (List.mem_singleton.mp hnew)

/-- The names on the way to a directory are names that directories can hold. -/
lemma Stored.names_of_directory (h : tree.Stored) (hplace : tree.entryAt? place = some .directory) :
    ∀ name ∈ place.names, name ≠ ".." ∧ IsFileName name := by
  intro name hname
  have hmem := mem_entries_of_entryAt? (List.ne_nil_of_mem hname) hplace
  refine ⟨?_, (h.named _ hmem).2 name hname⟩
  rintro rfl
  exact h.names _ hmem hname

/-- Something that is put into a directory, under a name that directories can hold, and not in place
of a directory keeps a tree stored. -/
lemma Stored.put (h : tree.Stored) {name : String} (hname : IsFileName name) (hpoints : name ≠ "..")
    (hparent : tree.entryAt? place = some .directory)
    (hplace : tree.entryAt? (place.child name) ≠ some .directory) (entry : Entry) :
    (tree.put (place.child name) entry).Stored := by
  have hnew : (place.child name).names = place.names ++ [name] := rfl
  have hnames : (place.child name).names ≠ [] := by simp [hnew]
  -- directories stay where they are
  have hkept : ∀ other, tree.entryAt? other = some .directory →
      (tree.put (place.child name) entry).entryAt? other = some .directory := by
    intro other hother
    rw [entryAt?_put tree hnames, if_neg, hother]
    rintro rfl
    exact hplace hother
  have habove := h.names_of_directory hparent
  refine { names := fun other hother => ?_, parents := fun other hother => ?_, distinct := ?_,
           named := fun other hother => ?_ }
  · rcases mem_entries_put hother with heq | ⟨old, hold, heq⟩
    · rw [heq, hnew, List.mem_append, List.mem_singleton, not_or]
      exact ⟨fun hmem => (habove _ hmem).1 rfl, hpoints.symm⟩
    · rw [← heq]
      exact h.names old hold
  · rcases mem_entries_put hother with heq | ⟨old, hold, heq⟩
    · rw [heq, hnew, List.dropLast_concat]
      exact hkept _ hparent
    · rw [← heq]
      exact hkept _ (h.parents old hold)
  · rw [map_fst_put]
    split_ifs with hmem
    · exact h.distinct
    · exact List.nodup_append_comm.mp (List.nodup_cons.mpr ⟨hmem, h.distinct⟩)
  · rcases mem_entries_put hother with heq | ⟨old, hold, heq⟩
    · rw [heq]
      refine ⟨hnames, fun part hpart => ?_⟩
      rw [hnew, List.mem_append, List.mem_singleton] at hpart
      rcases hpart with hpart | rfl
      · exact (habove part hpart).2
      · exact hname
    · rw [← heq]
      exact h.named old hold

/-! ### Paths into a stored tree -/

variable {path : Path}

/-- One level above a directory there is a directory. -/
lemma Stored.entryAt?_up (h : tree.Stored) (hplace : tree.entryAt? place = some .directory) :
    tree.entryAt? place.up = some .directory := by
  by_cases hnames : place.names = []
  · obtain ⟨origin, names⟩ := place
    simp only at hnames
    subst hnames
    cases origin <;> rfl
  · have hup : place.up = { place with names := place.names.dropLast } := by
      rw [Place.up, if_neg (by simpa using hnames)]
    rw [hup]
    exact h.parents _ (mem_entries_of_entryAt? hnames hplace)

/-- A proper path that leads somewhere, and not to a directory, ends with a name in a directory. -/
lemma Stored.exists_child (h : tree.Stored) (hpath : path.Proper)
    (hlocate : tree.locate path = .ok path.place)
    (hplace : tree.entryAt? path.place ≠ some .directory) :
    ∃ above name, path.place = above.child name ∧ tree.entryAt? above = some .directory ∧
      IsFileName name ∧ name ≠ ".." := by
  obtain ⟨hnull, -, hfrom⟩ := locate_eq_ok_iff.mp hlocate
  rcases List.eq_nil_or_concat path.parts with hnil | ⟨parts, last, hparts⟩
  · rw [Path.place, hnil] at hplace
    exact absurd rfl hplace
  · have hlast : last ∈ path.parts := by simp [hparts]
    rw [hparts, List.concat_eq_append, locateFrom_append] at hfrom
    obtain ⟨above, -, hstep⟩ := except_bind_eq_ok.mp hfrom
    have habove := (locateFrom_cons hstep).1
    rw [locateFrom, habove] at hstep
    simp only [locateFrom] at hstep
    split_ifs at hstep with hpoints hlong
    · rw [← Except.ok.inj hstep] at hplace
      exact absurd (h.entryAt?_up habove) hplace
    · refine ⟨above, last, (Except.ok.inj hstep).symm, habove,
        ⟨hpath.parts last hlast, fun c hc hzero => ?_, not_lt.mp hlong⟩, hpoints⟩
      have hsome : path.hasNull = true :=
        List.any_eq_true.mpr ⟨last, hlast, List.any_eq_true.mpr ⟨c, hc, by simpa using hzero⟩⟩
      rw [hnull] at hsome
      cases hsome

/-- Something new at a proper path keeps a tree stored, unless a directory stands there. -/
lemma Stored.put_place (h : tree.Stored) (hpath : path.Proper)
    (hlocate : tree.locate path = .ok path.place)
    (hplace : tree.entryAt? path.place ≠ some .directory) (entry : Entry) :
    (tree.put path.place entry).Stored := by
  obtain ⟨above, name, heq, habove, hname, hpoints⟩ := h.exists_child hpath hlocate hplace
  rw [heq] at hplace ⊢
  exact h.put hname hpoints habove hplace entry

lemma Stored.makeDirectory {next : FileTree} (h : tree.Stored) (hpath : path.Proper)
    (hmake : tree.makeDirectory path = .ok next) : next.Stored := by
  obtain ⟨hlocate, hnone, rfl⟩ := makeDirectory_eq_ok_iff.mp hmake
  exact h.put_place hpath hlocate (by simp [hnone]) .directory

lemma Stored.write {next : FileTree} {octets : List UInt8} (h : tree.Stored) (hpath : path.Proper)
    (hwrite : tree.write path octets = .ok next) : next.Stored := by
  obtain ⟨hlocate, hplace, rfl⟩ := write_eq_ok_iff.mp hwrite
  exact h.put_place hpath hlocate hplace _

lemma Stored.append {next : FileTree} {octets : List UInt8} (h : tree.Stored) (hpath : path.Proper)
    (happend : tree.append path octets = .ok next) : next.Stored := by
  obtain ⟨hlocate, hplace, rfl⟩ := append_eq_ok_iff.mp happend
  exact h.put_place hpath hlocate hplace _

/-- The tree without entries is stored. -/
lemma stored_empty : FileTree.Stored {} where
  names := by simp
  parents := by simp
  distinct := List.nodup_nil
  named := by simp

end FileTree

/-! ### Changes -/

/-- A change that keeps a tree stored, whatever comes of it. -/
def KeepsStored {ε α : Type} (change : FileM ε α) : Prop :=
  ∀ tree, tree.Stored → (change.run.run tree).2.Stored

section KeepsStored

variable {ε α β : Type} {path : Path}

lemma keepsStored_pure (a : α) : KeepsStored (pure a : FileM ε α) := fun _ h => h

lemma KeepsStored.bind {x : FileM ε α} {f : α → FileM ε β} (hx : KeepsStored x)
    (hf : ∀ a, KeepsStored (f a)) : KeepsStored (x >>= f) :=
  run_bind_snd (R := fun tree next => tree.Stored → next.Stored) (fun h h' => h' ∘ h) hx hf

lemma keepsStored_forM {items : List α} {f : α → FileM ε PUnit}
    (h : ∀ item ∈ items, KeepsStored (f item)) : KeepsStored (items.forM f) := by
  induction items with
  | nil => exact keepsStored_pure _
  | cons item rest ih =>
      rw [List.forall_mem_cons] at h
      exact h.1.bind fun _ => ih h.2

lemma keepsStored_liftStore {step : FileTree → Except FileError FileTree}
    (h : ∀ tree next, tree.Stored → step tree = .ok next → next.Stored) :
    KeepsStored (FileTree.liftStore step) := by
  intro tree htree
  rw [run_liftStore]
  cases hstep : step tree with
  | error error => exact htree
  | ok next => exact h tree next htree hstep

lemma keepsStored_liftM (result : Except StoreFault α) :
    KeepsStored (liftM result : StoreM α) := by
  intro tree h
  rwa [run_liftM]

lemma keepsStored_makeDirectories (hpath : path.Proper) :
    KeepsStored (makeDirectories path) := by
  refine run_makeDirectories_snd (R := fun tree next => tree.Stored → next.Stored) (fun _ h => h)
    (fun h h' => h' ∘ h) fun parts tree next hparts hmake h => ?_
  have habove : Path.Proper { path with parts } :=
    ⟨hpath.anchor, fun part hpart => hpath.parts part (hparts.subset hpart)⟩
  exact h.makeDirectory habove hmake

lemma Path.Proper.parent (hpath : path.Proper) : path.parent.Proper :=
  ⟨hpath.anchor, fun part hpart => hpath.parts part (List.mem_of_mem_dropLast hpart)⟩

/-- Storing a value at a proper path keeps a tree stored. -/
theorem keepsStored_saveJson (value : Json) (hpath : path.Proper) (pretty : Bool) :
    KeepsStored (saveJson value path pretty) :=
  (keepsStored_makeDirectories hpath.parent).bind fun _ =>
    (keepsStored_liftM _).bind fun _ =>
      keepsStored_liftStore fun _ _ h hwrite => h.write hpath hwrite

/-- Storing values at a proper path keeps a tree stored. -/
theorem keepsStored_saveLines (records : List Json) (hpath : path.Proper) (keep : Bool) :
    KeepsStored (saveLines records path keep) := by
  refine (keepsStored_makeDirectories hpath.parent).bind fun _ => ?_
  split_ifs
  · exact keepsStored_pure _
  · exact keepsStored_liftStore fun _ _ h hwrite => h.write hpath hwrite
  · exact (keepsStored_liftM _).bind fun _ =>
      keepsStored_liftStore fun _ _ h hstore => h.append hpath hstore
  · exact (keepsStored_liftM _).bind fun _ =>
      keepsStored_liftStore fun _ _ h hstore => h.write hpath hstore

/-- **Trees are stored as they are built**: directories and files at proper paths make a stored
tree. -/
theorem stored_ofEntries {directories : List Path} {files : List (Path × List UInt8)}
    (hdirectories : ∀ path ∈ directories, path.Proper) (hfiles : ∀ file ∈ files, file.1.Proper) :
    (FileTree.ofEntries directories files).Stored := by
  refine KeepsStored.bind
    (keepsStored_forM fun path hpath => keepsStored_makeDirectories (hdirectories path hpath))
    (fun _ => keepsStored_forM ?_) {} FileTree.stored_empty
  rintro ⟨path, octets⟩ hfile
  have hpath : path.Proper := hfiles _ hfile
  exact (keepsStored_makeDirectories hpath.parent).bind fun _ =>
    keepsStored_liftStore fun _ _ h hwrite => h.write hpath hwrite

end KeepsStored

end SourceLayers
