/-
The files that are selected:

* `FileTree.mem_filesAt_iff`, `FileTree.mem_selectFiles_iff`: which files those are, path by path;
* `FileTree.nodup_selectFiles`: each of them once. Where no path gives one that another has given,
  they are what the paths give, in another order (`FileTree.exists_perm_selectFiles`);
* `FileTree.selectFiles_file`: a file that is given by itself;
* `FileTree.WellFormed`: no name is a pair of points, and whatever stands in a tree stands in a
  directory. Then what a path leads to in a larger tree it leads to in this one, if it is there;
* `FileTree.AddsUndecodable`: a tree with more directories and files, none of them in UTF-8.

Main statement: `mem_selectFiles_added`, that the selected files in UTF-8 are still the same after
others were added.
-/
import Mathlib.Tactic
import SourceLayers.Batch.Selection
import SourceLayers.Proofs.Batch

namespace SourceLayers

/-- The place that further names lead to from a place. -/
def Place.below (place : Place) (names : List String) : Place :=
  { place with names := place.names ++ names }

/-- Whether an entry is a file in UTF-8. -/
def Entry.decodes : Entry → Bool
  | .file octets => (decodeUtf8 octets).isOk
  | .directory => false

namespace FileTree

variable {tree larger : FileTree} {path found : Path} {suffixes : List String}
  {paths files : List Path}

/-! ### Below a directory -/

lemma namesBelow?_eq_some_iff {place other : Place} {names : List String} :
    place.namesBelow? other = some names ↔ other = place.below names := by
  obtain ⟨origin, base⟩ := place
  obtain ⟨origin', whole⟩ := other
  simp only [Place.namesBelow?, Place.below, List.isPrefixOf_iff_prefix]
  constructor
  · intro h
    split_ifs at h with hbelow
    obtain ⟨rfl, rest, rfl⟩ := hbelow
    rw [Option.some_inj, List.drop_left] at h
    rw [h]
  · intro h
    obtain ⟨rfl, rfl⟩ := Place.mk.inj h
    rw [if_pos ⟨rfl, List.prefix_append _ _⟩, List.drop_left]

lemma mem_entriesBelow_iff {entry : Entry} (hlocate : tree.locate path = .ok path.place) :
    (found, entry) ∈ tree.entriesBelow path ↔
      ∃ names, found = path.append names ∧ (path.place.below names, entry) ∈ tree.entries := by
  simp only [entriesBelow, hlocate, List.mem_filterMap, Option.map_eq_some_iff,
    namesBelow?_eq_some_iff, Prod.exists, Prod.mk.injEq]
  constructor
  · rintro ⟨_, _, hmem, names, rfl, rfl, rfl⟩
    exact ⟨names, rfl, hmem⟩
  · rintro ⟨names, rfl, hmem⟩
    exact ⟨_, _, hmem, names, rfl, rfl, rfl⟩

/-- The files that are found below a directory. -/
lemma mem_filesBelow_iff {files : List Path} (hlocate : tree.locate path = .ok path.place)
    (h : tree.filesBelow path = .ok files) :
    found ∈ files ↔ ∃ names octets, found = path.append names ∧
      (path.place.below names, Entry.file octets) ∈ tree.entries := by
  have hfiles : found ∈ files ↔ ∃ octets, (found, Entry.file octets) ∈ tree.entriesBelow path := by
    rw [filesBelow] at h
    simp only at h
    split at h
    · cases h
    · cases h
      rw [List.mem_filterMap]
      constructor
      · rintro ⟨⟨other, entry⟩, hmem, hother⟩
        cases entry with
        | directory => cases hother
        | file octets =>
            cases hother
            exact ⟨octets, hmem⟩
      · rintro ⟨octets, hmem⟩
        exact ⟨_, hmem, rfl⟩
  simp only [hfiles, mem_entriesBelow_iff hlocate]
  exact exists_comm

/-! ### Paths -/

lemma isFile_ne_true_of_isDirectory (h : tree.isDirectory path = .ok true) :
    tree.isFile path ≠ .ok true := by
  intro hfile
  obtain ⟨octets, hread⟩ := isFile_eq_true_iff.mp hfile
  have hentry := fileAt?_eq_some_iff.mp (read_eq_ok_iff.mp hread).2
  rw [(isDirectory_eq_true_iff.mp h).2] at hentry
  cases hentry

lemma isDirectory_of_isFile (h : tree.isFile path = .ok true) :
    tree.isDirectory path = .ok false := by
  obtain ⟨octets, hread⟩ := isFile_eq_true_iff.mp h
  obtain ⟨hlocate, hfile⟩ := read_eq_ok_iff.mp hread
  rw [isDirectory, find_eq_some_iff.mpr ⟨hlocate, fileAt?_eq_some_iff.mp hfile⟩]
  rfl

lemma isPresent_of_isFile (h : tree.isFile path = .ok true) : tree.isPresent path = .ok true := by
  obtain ⟨octets, hread⟩ := isFile_eq_true_iff.mp h
  obtain ⟨hlocate, hfile⟩ := read_eq_ok_iff.mp hread
  rw [isPresent, find_eq_some_iff.mpr ⟨hlocate, fileAt?_eq_some_iff.mp hfile⟩]
  rfl

/-- A path to a directory gives the files below it whose suffix is wanted. -/
lemma filesAt_directory (h : tree.isDirectory path = .ok true) :
    tree.filesAt suffixes path = List.filter (hasSuffix suffixes) <$> tree.filesBelow path := by
  rw [filesAt, h]
  rfl

/-- A path to a file gives that file, whatever its suffix. -/
lemma filesAt_file (h : tree.isFile path = .ok true) : tree.filesAt suffixes path = .ok [path] := by
  rw [filesAt, isDirectory_of_isFile h, h]
  rfl

/-- A path gives the files below a directory whose suffix is wanted, or itself if it is a file. -/
lemma mem_filesAt_iff (h : tree.filesAt suffixes path = .ok files) :
    found ∈ files ↔
      (tree.isDirectory path = .ok true ∧ hasSuffix suffixes found = true ∧
        ∃ names octets, found = path.append names ∧
          (path.place.below names, Entry.file octets) ∈ tree.entries) ∨
      tree.isFile path = .ok true ∧ found = path := by
  obtain ⟨isDirectory, hdirectory, hrest⟩ := except_bind_eq_ok.mp h
  cases isDirectory with
  | true =>
      rw [filesAt_directory hdirectory] at h
      obtain ⟨all, hall, rfl⟩ := except_map_eq_ok.mp h
      rw [List.mem_filter, mem_filesBelow_iff (isDirectory_eq_true_iff.mp hdirectory).1 hall,
        or_iff_left fun hfile => isFile_ne_true_of_isDirectory hdirectory hfile.1]
      exact ⟨fun ⟨hfound, hsuffix⟩ => ⟨hdirectory, hsuffix, hfound⟩,
        fun ⟨_, hsuffix, hfound⟩ => ⟨hfound, hsuffix⟩⟩
  | false =>
      obtain ⟨isFile, hfile, hrest⟩ := except_bind_eq_ok.mp hrest
      rw [hdirectory, hfile]
      cases isFile with
      | true =>
          cases hrest
          simp
      | false =>
          cases hrest
          simp

/-! ### Selections -/

lemma selectFiles_eq_ok_iff :
    tree.selectFiles suffixes paths = .ok files ↔
      ∃ all, paths.mapM (tree.filesAt suffixes) = .ok all ∧
        files = (all.flatten.mergeSort Path.before).eraseDups := by
  rw [selectFiles]
  exact except_bind_eq_ok.trans (exists_congr fun all => and_congr_right fun _ =>
    ⟨fun h => (Except.ok.inj h).symm, fun h => congrArg Except.ok h.symm⟩)

/-- What a path by itself gives is selected as it is, if it is sorted and has no duplicates. -/
lemma selectFiles_of_sorted (h : tree.filesAt suffixes path = .ok files)
    (hsorted : files.Pairwise fun a b => a.before b = true) (honce : files.eraseDups = files) :
    tree.selectFiles suffixes [path] = .ok files := by
  refine selectFiles_eq_ok_iff.mpr ⟨[files], mapM_eq_ok_iff.mpr (.cons h .nil), ?_⟩
  rw [List.flatten_singleton, List.mergeSort_of_pairwise hsorted, honce]

/-- A file that is given by itself is selected by itself. -/
lemma selectFiles_file (h : tree.isFile path = .ok true) :
    tree.selectFiles suffixes [path] = .ok [path] :=
  selectFiles_of_sorted (filesAt_file h) (List.pairwise_singleton _ _)
    (by simp [List.eraseDups_cons])

/-- A selection holds what each of its paths gives. -/
lemma mem_selectFiles_iff (h : tree.selectFiles suffixes paths = .ok files) :
    found ∈ files ↔ ∃ path ∈ paths, ∃ given, tree.filesAt suffixes path = .ok given ∧
      found ∈ given := by
  obtain ⟨all, hall, rfl⟩ := selectFiles_eq_ok_iff.mp h
  rw [List.mem_eraseDups, List.mem_mergeSort, List.mem_flatten]
  simp only [mem_iff_of_mapM hall]
  constructor
  · rintro ⟨given, ⟨path, hpath, hgiven⟩, hfound⟩
    exact ⟨path, hpath, given, hgiven, hfound⟩
  · rintro ⟨path, hpath, given, hgiven, hfound⟩
    exact ⟨given, ⟨path, hpath, hgiven⟩, hfound⟩

lemma nodup_eraseDups (paths : List Path) : paths.eraseDups.Nodup := by
  induction hlength : paths.length using Nat.strong_induction_on generalizing paths with
  | _ n ih =>
      cases paths with
      | nil => exact List.nodup_nil
      | cons first rest =>
          rw [List.eraseDups_cons, List.nodup_cons, List.mem_eraseDups]
          refine ⟨by simp, ih _ ?_ _ rfl⟩
          rw [← hlength]
          exact Nat.lt_succ_of_le (List.length_filter_le _ rest)

/-- No file is selected twice. -/
lemma nodup_selectFiles (h : tree.selectFiles suffixes paths = .ok files) : files.Nodup := by
  obtain ⟨all, -, rfl⟩ := selectFiles_eq_ok_iff.mp h
  exact nodup_eraseDups _

/-- Where the paths give no file twice, all that they give is selected. -/
lemma exists_perm_selectFiles {all : List (List Path)}
    (hall : paths.mapM (tree.filesAt suffixes) = .ok all) (honce : all.flatten.Nodup) :
    ∃ files, tree.selectFiles suffixes paths = .ok files ∧ files.Perm all.flatten := by
  have hfiles := selectFiles_eq_ok_iff.mpr ⟨all, hall, rfl⟩
  refine ⟨_, hfiles, (List.perm_ext_iff_of_nodup (nodup_selectFiles hfiles) honce).mpr ?_⟩
  exact fun file => by rw [List.mem_eraseDups, List.mem_mergeSort]

/-! ### Well-formed trees -/

/-- A tree as it is stored: no name is a pair of points, and whatever stands somewhere stands in a
directory. -/
structure WellFormed (tree : FileTree) : Prop where
  names : ∀ entry ∈ tree.entries, ".." ∉ entry.1.names
  parents : ∀ entry ∈ tree.entries,
    tree.entryAt? { entry.1 with names := entry.1.names.dropLast } = some .directory

lemma mem_entries_of_entryAt? {place : Place} {entry : Entry} (hnames : place.names ≠ [])
    (h : tree.entryAt? place = some entry) : (place, entry) ∈ tree.entries := by
  rw [entryAt?, if_neg (by simpa using hnames)] at h
  obtain ⟨before, after, hentries, -⟩ := List.lookup_eq_some_iff.mp h
  rw [hentries]
  exact List.mem_append_right before List.mem_cons_self

lemma mem_entries_of_fileAt? {place : Place} {octets : List UInt8}
    (h : tree.fileAt? place = some octets) : (place, Entry.file octets) ∈ tree.entries := by
  have hentry := fileAt?_eq_some_iff.mp h
  exact mem_entries_of_entryAt? (names_ne_nil (by rw [hentry]; simp)) hentry

/-- Whatever stands somewhere in a well-formed tree stands in a directory. -/
lemma WellFormed.parent (h : tree.WellFormed) {place : Place} {name : String}
    (hentry : tree.entryAt? (place.child name) ≠ none) : tree.entryAt? place = some .directory := by
  obtain ⟨entry, hsome⟩ := Option.ne_none_iff_exists'.mp hentry
  have hparent := h.parents _ (mem_entries_of_entryAt? (by simp [Place.child]) hsome)
  rwa [Place.child, List.dropLast_concat] at hparent

lemma child_below (place : Place) (name : String) (rest : List String) :
    (place.child name).below rest = place.below (name :: rest) := by
  simp [Place.below, Place.child]

/-- Above whatever stands in a well-formed tree there are directories only. -/
lemma WellFormed.directory_above (h : tree.WellFormed) {place : Place} {name : String}
    {names : List String} (hentry : tree.entryAt? (place.below (name :: names)) ≠ none) :
    tree.entryAt? place = some .directory := by
  induction names generalizing place name with
  | nil => exact h.parent hentry
  | cons next rest ih =>
      rw [← child_below] at hentry
      have hchild : tree.entryAt? (place.child name) ≠ none := by
        rw [ih hentry]
        exact Option.some_ne_none _
      exact h.parent hchild

/-- Names that can be followed in one tree can be followed in a well-formed one, if they lead to
something there. -/
lemma WellFormed.locateFrom (h : tree.WellFormed) {place found : Place} {names : List String}
    (hnames : ".." ∉ names) (hlarger : larger.locateFrom place names = .ok found)
    (hentry : tree.entryAt? (place.below names) ≠ none) :
    tree.locateFrom place names = .ok found := by
  induction names generalizing place with
  | nil => exact hlarger
  | cons name rest ih =>
      rw [List.mem_cons, not_or] at hnames
      rw [FileTree.locateFrom, (locateFrom_cons hlarger).1, if_neg (Ne.symm hnames.1)] at hlarger
      rw [FileTree.locateFrom, h.directory_above hentry, if_neg (Ne.symm hnames.1)]
      simp only at hlarger ⊢
      split_ifs at hlarger ⊢
      exact ih hnames.2 hlarger (by rwa [child_below])

/-! ### Added files -/

/-- A tree with more in it: further directories, and files that are not in UTF-8. -/
structure AddsUndecodable (tree larger : FileTree) : Prop where
  kept : ∀ entry ∈ tree.entries, larger.entryAt? entry.1 = tree.entryAt? entry.1
  added : ∀ entry ∈ larger.entries, tree.entryAt? entry.1 = none → entry.2.decodes = false

/-- A path that leads nowhere else when directories are added: there are no new ones, or it leads
somewhere already, or it does not go up. -/
def Steady (tree larger : FileTree) (path : Path) : Prop :=
  (∀ place, larger.entryAt? place = some .directory → tree.entryAt? place = some .directory) ∨
    tree.isPresent path = .ok true ∨ ".." ∉ path.parts

lemma decodes_iff_fileAt? :
    tree.decodes path = true ↔ tree.locate path = .ok path.place ∧
      ∃ octets, tree.fileAt? path.place = some octets ∧ (decodeUtf8 octets).isOk = true := by
  rw [decodes]
  cases hread : tree.read path with
  | ok octets =>
      obtain ⟨hlocate, hfile⟩ := read_eq_ok_iff.mp hread
      simp [hlocate, hfile]
  | error error =>
      refine iff_of_false (by simp) ?_
      rintro ⟨hlocate, octets, hfile, -⟩
      rw [read_eq_ok_iff.mpr ⟨hlocate, hfile⟩] at hread
      cases hread

lemma locate_of_isPresent (h : tree.isPresent path = .ok true) :
    tree.locate path = .ok path.place := by
  rw [isPresent, except_map_eq_ok] at h
  obtain ⟨entry, hfind, hsome⟩ := h
  obtain ⟨entry, rfl⟩ := Option.isSome_iff_exists.mp hsome
  exact (find_eq_some_iff.mp hfind).1

/-- A steady path that leads to something old leads there in the old tree. -/
lemma WellFormed.locate (h : tree.WellFormed) (hsteady : Steady tree larger path)
    (hlarger : larger.locate path = .ok path.place) (hentry : tree.entryAt? path.place ≠ none) :
    tree.locate path = .ok path.place := by
  rcases hsteady with hdirectories | hpresent | hnames
  · exact locate_of_directories hdirectories hlarger
  · exact locate_of_isPresent hpresent
  · obtain ⟨hnull, hlong, hfrom⟩ := locate_eq_ok_iff.mp hlarger
    have hplace : path.place = path.origin.below path.parts := Place.follow_names path.origin hnames
    rw [hplace] at hentry
    exact locate_eq_ok_iff.mpr ⟨hnull, hlong, h.locateFrom hnames hfrom hentry⟩

/-- Something old below a path of the old tree is found there. -/
lemma WellFormed.locate_append (h : tree.WellFormed) {names : List String}
    (hpath : tree.locate path = .ok path.place) (hnames : ".." ∉ names)
    (hlarger : larger.locate (path.append names) = .ok (path.append names).place)
    (hfound : larger.locate path = .ok path.place)
    (hentry : tree.entryAt? (path.append names).place ≠ none) :
    tree.locate (path.append names) = .ok (path.append names).place := by
  obtain ⟨hnull, hlong, hfrom⟩ := locate_eq_ok_iff.mp hlarger
  refine locate_eq_ok_iff.mpr ⟨hnull, hlong, ?_⟩
  have hstart := (locate_eq_ok_iff.mp hpath).2.2
  have hstart' := (locate_eq_ok_iff.mp hfound).2.2
  have horigin : (path.append names).origin = path.origin := rfl
  have hparts : (path.append names).parts = path.parts ++ names := rfl
  rw [horigin, hparts, locateFrom_append] at hfrom ⊢
  rw [hstart'] at hfrom
  rw [hstart]
  refine h.locateFrom hnames hfrom ?_
  rwa [Path.place_append, Place.follow_names _ hnames] at hentry

lemma AddsUndecodable.entryAt?_eq (hadds : tree.AddsUndecodable larger) {place : Place}
    {entry : Entry} (h : tree.entryAt? place = some entry) :
    larger.entryAt? place = some entry := by
  by_cases hnames : place.names = []
  · rw [entryAt?, hnames] at h ⊢
    exact h
  · rw [← h]
    exact hadds.kept _ (mem_entries_of_entryAt? hnames h)

lemma AddsUndecodable.fileAt?_of_tree (hadds : tree.AddsUndecodable larger) {place : Place}
    {octets : List UInt8} (h : tree.fileAt? place = some octets) :
    larger.fileAt? place = some octets :=
  fileAt?_eq_some_iff.mpr (hadds.entryAt?_eq (fileAt?_eq_some_iff.mp h))

/-- A file in UTF-8 was there before. -/
lemma AddsUndecodable.fileAt?_of_larger (hadds : tree.AddsUndecodable larger) {place : Place}
    {octets : List UInt8} (h : larger.fileAt? place = some octets)
    (hok : (decodeUtf8 octets).isOk = true) : tree.fileAt? place = some octets := by
  cases hentry : tree.entryAt? place with
  | none =>
      have hnew : (decodeUtf8 octets).isOk = false :=
        hadds.added _ (mem_entries_of_fileAt? h) hentry
      rw [hok] at hnew
      cases hnew
  | some entry =>
      have hlarger := fileAt?_eq_some_iff.mp h
      rw [hadds.entryAt?_eq hentry, Option.some_inj] at hlarger
      rw [fileAt?_eq_some_iff, hentry, hlarger]

lemma AddsUndecodable.locate (hadds : tree.AddsUndecodable larger)
    (h : tree.locate path = .ok path.place) : larger.locate path = .ok path.place :=
  locate_of_directories (fun _ hplace => hadds.entryAt?_eq hplace) h

/-- What could be read before reads the same. -/
lemma AddsUndecodable.readText_eq (hadds : tree.AddsUndecodable larger)
    (h : tree.decodes path = true) : larger.readText path = tree.readText path := by
  obtain ⟨hlocate, octets, hfile, -⟩ := decodes_iff_fileAt?.mp h
  rw [readText, readText, read_eq_ok_iff.mpr ⟨hlocate, hfile⟩,
    read_eq_ok_iff.mpr ⟨hadds.locate hlocate, hadds.fileAt?_of_tree hfile⟩]

lemma AddsUndecodable.decodes (hadds : tree.AddsUndecodable larger) (h : tree.decodes path = true) :
    larger.decodes path = true := by
  obtain ⟨text, hread⟩ := decodes_iff.mp h
  exact decodes_iff.mpr ⟨text, (hadds.readText_eq h).trans hread⟩

/-- The place below a directory of something that is not named by points. -/
lemma WellFormed.place_append (h : tree.WellFormed) {names : List String} {entry : Entry}
    (hmem : (path.place.below names, entry) ∈ tree.entries) :
    ".." ∉ names ∧ (path.append names).place = path.place.below names := by
  have hnames : ".." ∉ names := fun hpoints =>
    h.names _ hmem (List.mem_append_right path.place.names hpoints)
  exact ⟨hnames, (Path.place_append path names).trans (Place.follow_names _ hnames)⟩

/-- A steady path gives the same files in UTF-8 after others were added. -/
lemma mem_filesAt_added (htree : tree.WellFormed) (hlarger : larger.WellFormed)
    (hadds : tree.AddsUndecodable larger) (hsteady : Steady tree larger path)
    {given more : List Path} (hgiven : tree.filesAt suffixes path = .ok given)
    (hmore : larger.filesAt suffixes path = .ok more) :
    found ∈ more ∧ larger.decodes found = true ↔ found ∈ given ∧ tree.decodes found = true := by
  rw [mem_filesAt_iff hmore, mem_filesAt_iff hgiven]
  constructor
  · rintro ⟨⟨hdirectory, hsuffix, names, _, rfl, hmem⟩ | ⟨hfile, rfl⟩, hdecodes⟩
    · obtain ⟨hlocate, octets, hoctets, hok⟩ := decodes_iff_fileAt?.mp hdecodes
      have hold := hadds.fileAt?_of_larger hoctets hok
      obtain ⟨hnames, hplace⟩ := hlarger.place_append hmem
      obtain ⟨hfound, hentry⟩ := isDirectory_eq_true_iff.mp hdirectory
      -- the directory was there before, since the file was
      have habove : tree.entryAt? path.place = some .directory := by
        cases names with
        | nil =>
            rw [Path.place_append, Place.follow_nil, fileAt?_eq_some_iff, hentry] at hoctets
            cases hoctets
        | cons name rest =>
            rw [hplace, fileAt?_eq_some_iff] at hold
            exact htree.directory_above (by rw [hold]; exact Option.some_ne_none _)
      have hpath := htree.locate hsteady hfound (by rw [habove]; exact Option.some_ne_none _)
      have happend := htree.locate_append hpath hnames hlocate hfound (by
        rw [fileAt?_eq_some_iff.mp hold]
        exact Option.some_ne_none _)
      refine ⟨Or.inl ⟨isDirectory_eq_true_iff.mpr ⟨hpath, habove⟩, hsuffix, names, octets, rfl, ?_⟩,
        decodes_iff_fileAt?.mpr ⟨happend, octets, hold, hok⟩⟩
      rw [← hplace]
      exact mem_entries_of_fileAt? hold
    · obtain ⟨hlocate, octets, hoctets, hok⟩ := decodes_iff_fileAt?.mp hdecodes
      have hold := hadds.fileAt?_of_larger hoctets hok
      have hfound := htree.locate hsteady hlocate (by
        rw [fileAt?_eq_some_iff.mp hold]
        exact Option.some_ne_none _)
      refine ⟨Or.inr ⟨?_, rfl⟩, decodes_iff_fileAt?.mpr ⟨hfound, octets, hold, hok⟩⟩
      exact isFile_eq_true_iff.mpr ⟨octets, read_eq_ok_iff.mpr ⟨hfound, hold⟩⟩
  · rintro ⟨⟨hdirectory, hsuffix, names, _, rfl, hmem⟩ | ⟨hfile, rfl⟩, hdecodes⟩
    · obtain ⟨hlocate, octets, hoctets, hok⟩ := decodes_iff_fileAt?.mp hdecodes
      obtain ⟨hplace, hentry⟩ := isDirectory_eq_true_iff.mp hdirectory
      refine ⟨Or.inl ⟨?_, hsuffix, names, octets, rfl, ?_⟩, hadds.decodes hdecodes⟩
      · exact isDirectory_eq_true_iff.mpr ⟨hadds.locate hplace, hadds.entryAt?_eq hentry⟩
      · rw [← (htree.place_append hmem).2]
        exact mem_entries_of_fileAt? (hadds.fileAt?_of_tree hoctets)
    · refine ⟨Or.inr ⟨?_, rfl⟩, hadds.decodes hdecodes⟩
      obtain ⟨octets, hread⟩ := isFile_eq_true_iff.mp hfile
      obtain ⟨hlocate, hoctets⟩ := read_eq_ok_iff.mp hread
      exact isFile_eq_true_iff.mpr
        ⟨octets, read_eq_ok_iff.mpr ⟨hadds.locate hlocate, hadds.fileAt?_of_tree hoctets⟩⟩

/-- **The selected files in UTF-8 are the same after others were added.** -/
lemma mem_selectFiles_added (htree : tree.WellFormed) (hlarger : larger.WellFormed)
    (hadds : tree.AddsUndecodable larger) (hsteady : ∀ path ∈ paths, Steady tree larger path)
    {more : List Path} (hfiles : tree.selectFiles suffixes paths = .ok files)
    (hmore : larger.selectFiles suffixes paths = .ok more) :
    found ∈ more ∧ larger.decodes found = true ↔ found ∈ files ∧ tree.decodes found = true := by
  obtain ⟨all, hall, -⟩ := selectFiles_eq_ok_iff.mp hfiles
  obtain ⟨all', hall', -⟩ := selectFiles_eq_ok_iff.mp hmore
  rw [mem_selectFiles_iff hmore, mem_selectFiles_iff hfiles]
  constructor
  · rintro ⟨⟨path, hpath, given', hgiven', hfound⟩, hdecodes⟩
    obtain ⟨given, hgiven⟩ := exists_of_mapM hall hpath
    obtain ⟨hold, hdecodes'⟩ := (mem_filesAt_added htree hlarger hadds (hsteady path hpath) hgiven
      hgiven').mp ⟨hfound, hdecodes⟩
    exact ⟨⟨path, hpath, given, hgiven, hold⟩, hdecodes'⟩
  · rintro ⟨⟨path, hpath, given, hgiven, hfound⟩, hdecodes⟩
    obtain ⟨given', hgiven'⟩ := exists_of_mapM hall' hpath
    obtain ⟨hnew, hdecodes'⟩ := (mem_filesAt_added htree hlarger hadds (hsteady path hpath) hgiven
      hgiven').mpr ⟨hfound, hdecodes⟩
    exact ⟨⟨path, hpath, given', hgiven', hnew⟩, hdecodes'⟩

end FileTree

end SourceLayers
