/-
The list of files that paths select:

* `Path.suffix_of_last_point`, `Path.suffix_of_no_point`: the suffix of a name begins at its last
  point, if that is neither the first nor the last character;
* `Path.WithinLimits`: paths that are not too long to be followed. Only others make finding
  something fail (`FileTree.find_eq_error`);
* `Path.IsBelow`: paths that go down from another one;
* `FileTree.Selects`: the files that paths select, by what is found at paths. They are the files of
  the selection (`FileTree.Stored.mem_selectFiles_iff`), in the order of paths and each of them once
  (`FileTree.pairwise_selectFiles`);
* `FileTree.LooksAt`: the paths that a selection looks at. It has no fault but for one of them that
  is too long (`FileTree.Stored.filesAt_eq_error`).

Main statement: `selectFiles_exact`. A selection gives a list unless a path that it looks at is too
long, and the list depends on the files in it only: not on the order of the given paths, nor on
whether something is given twice.
-/
import Mathlib.Tactic
import SourceLayers.Proofs.StoredTree

namespace SourceLayers

namespace Path

variable {path above : Path}

/-! ### Suffixes -/

/-- The suffix of a name begins at its last point, unless that is its first or last character. -/
lemma suffix_of_last_point {stem extension : List Char}
    (hname : path.name.toList = stem ++ '.' :: extension) (hlast : '.' ∉ extension) :
    path.suffix =
      if stem = [] ∨ extension = [] then "" else String.ofList ('.' :: extension) := by
  have hback : path.name.toList.reverse = extension.reverse ++ '.' :: stem.reverse := by
    simp [hname]
  have htail : path.name.toList.reverse.takeWhile (· != '.') = extension.reverse := by
    have hpointless : ∀ c ∈ extension.reverse, (c != '.') = true := by
      intro c hc
      rw [bne_iff_ne]
      rintro rfl
      exact hlast (List.mem_reverse.mp hc)
    rw [hback, List.takeWhile_append_of_pos hpointless, List.takeWhile_cons_of_neg (by simp),
      List.append_nil]
  rw [suffix, htail, hback]
  simp [or_comm]

/-- A name without a point has no suffix. -/
lemma suffix_of_no_point (hname : '.' ∉ path.name.toList) : path.suffix = "" := by
  have htail : path.name.toList.reverse.takeWhile (· != '.') = path.name.toList.reverse := by
    rw [List.takeWhile_eq_self_iff]
    intro c hc
    rw [bne_iff_ne]
    rintro rfl
    exact hname (List.mem_reverse.mp hc)
  rw [suffix, htail]
  simp

/-! ### Limits -/

/-- Whether a path is not too long to be followed, and no name in it is too long. -/
def WithinLimits (path : Path) : Prop :=
  utf8Length path.render ≤ maxPathLength ∧
    ∀ part ∈ path.parts, utf8Length part ≤ maxNameLength

/-! ### Below a path -/

/-- Whether a path goes down from another one. -/
def IsBelow (path above : Path) : Prop :=
  ∃ names, names ≠ [] ∧ ".." ∉ names ∧ path = above.append names

lemma append_append (path : Path) (names more : List String) :
    (path.append names).append more = path.append (names ++ more) := by
  simp only [append, List.append_assoc]

lemma IsBelow.trans {top : Path} (h : path.IsBelow above) (h' : above.IsBelow top) :
    path.IsBelow top := by
  obtain ⟨names, -, hpoints, rfl⟩ := h
  obtain ⟨upper, hupper, hpoints', rfl⟩ := h'
  refine ⟨upper ++ names, by simp [hupper], ?_, append_append _ _ _⟩
  rw [List.mem_append, not_or]
  exact ⟨hpoints', hpoints⟩

end Path

namespace FileTree

variable {tree : FileTree} {path found : Path} {suffixes : List String} {paths files : List Path}
  {fault : FileError}

/-! ### Paths that are too long -/

lemma exists_long_of_locateFrom {place : Place} {parts : List String}
    (h : tree.locateFrom place parts = .error .nameTooLong) :
    ∃ part ∈ parts, maxNameLength < utf8Length part := by
  induction parts generalizing place with
  | nil => cases h
  | cons part rest ih =>
      have hrest : ∀ {next}, tree.locateFrom next rest = .error .nameTooLong →
          ∃ part' ∈ part :: rest, maxNameLength < utf8Length part' := by
        intro next hnext
        obtain ⟨long, hmem, hlong⟩ := ih hnext
        exact ⟨long, List.mem_cons_of_mem _ hmem, hlong⟩
      rw [locateFrom] at h
      split at h
      · cases h
      · cases h
      · split_ifs at h with hpoints hlong
        · exact hrest h
        · exact ⟨part, List.mem_cons_self, hlong⟩
        · exact hrest h

/-- A name that is too long is not followed. -/
lemma locate_long_name (tree : FileTree) {name : String} (hnull : ∀ c ∈ name.toList, c.toNat ≠ 0)
    (hlong : maxNameLength < utf8Length name) :
    tree.locate { parts := [name] } = .error .nameTooLong := by
  have hpoints : name ≠ ".." := by
    rintro rfl
    exact absurd hlong (by decide)
  have hnone : Path.hasNull { parts := [name] } = false := by
    simpa [Path.hasNull, List.any_eq_false] using hnull
  rw [locate, hnone]
  simp [locateFrom, entryAt?, hpoints, hlong]

/-- Finding something fails only at a path that is too long. -/
lemma find_eq_error (h : tree.find path = .error fault) :
    fault = ⟨.nameTooLong, path⟩ ∧ ¬ path.WithinLimits := by
  rw [find] at h
  split at h
  · cases h
  · rename_i hlocate
    refine ⟨(Except.error.inj h).symm, fun hlimits => ?_⟩
    rw [locate, ← Path.origin] at hlocate
    split_ifs at hlocate with hnull hlong
    · cases hlocate
    · exact absurd hlimits.1 (not_le.mpr hlong)
    · obtain ⟨part, hpart, hlong⟩ := exists_long_of_locateFrom hlocate
      exact absurd (hlimits.2 part hpart) (not_le.mpr hlong)
  · cases h

lemma isDirectory_eq_error (h : tree.isDirectory path = .error fault) :
    fault = ⟨.nameTooLong, path⟩ ∧ ¬ path.WithinLimits :=
  find_eq_error (except_map_eq_error.mp h)

lemma isFile_eq_error (h : tree.isFile path = .error fault) :
    fault = ⟨.nameTooLong, path⟩ ∧ ¬ path.WithinLimits :=
  find_eq_error (except_map_eq_error.mp h)

/-- The paths of everything below a directory that gives its files can be followed. -/
lemma length_le_of_filesBelow {entry : Entry} (h : tree.filesBelow path = .ok files)
    (hbelow : (found, entry) ∈ tree.entriesBelow path) :
    utf8Length found.render ≤ maxPathLength := by
  rw [filesBelow] at h
  simp only at h
  split at h
  · cases h
  · rename_i hnone
    simpa using List.find?_eq_none.mp hnone _ hbelow

lemma filesBelow_eq_error (h : tree.filesBelow path = .error fault) :
    ∃ found entry, (found, entry) ∈ tree.entriesBelow path ∧
      fault = ⟨.nameTooLong, found⟩ ∧ maxPathLength < utf8Length found.render := by
  rw [filesBelow] at h
  simp only at h
  split at h
  · rename_i found entry hfound
    exact ⟨found, entry, List.mem_of_find?_eq_some hfound, (Except.error.inj h).symm,
      by simpa using List.find?_some hfound⟩
  · cases h

lemma exists_filesBelow
    (h : ∀ found entry, (found, entry) ∈ tree.entriesBelow path →
      utf8Length found.render ≤ maxPathLength) :
    ∃ files, tree.filesBelow path = .ok files := by
  cases hfiles : tree.filesBelow path with
  | ok files => exact ⟨files, rfl⟩
  | error fault =>
      obtain ⟨found, entry, hbelow, -, hlong⟩ := filesBelow_eq_error hfiles
      exact absurd (h found entry hbelow) (not_le.mpr hlong)

/-! ### Below a directory of a stored tree -/

lemma hasNull_append (path : Path) (names : List String) :
    (path.append names).hasNull =
      (path.hasNull || names.any fun name => name.toList.any fun c => c.toNat == 0) :=
  List.any_append

/-- Whatever stands below a directory is found under its path, unless that is too long. -/
lemma Stored.locate_append (h : tree.Stored) {names : List String} {entry : Entry}
    (hpath : tree.locate path = .ok path.place)
    (hmem : (path.place.below names, entry) ∈ tree.entries)
    (hlong : utf8Length (path.append names).render ≤ maxPathLength) :
    tree.locate (path.append names) = .ok (path.append names).place := by
  obtain ⟨hnull, -, hfrom⟩ := locate_eq_ok_iff.mp hpath
  have hnamed : ∀ name ∈ names, IsFileName name := fun name hname =>
    (h.named _ hmem).2 name (List.mem_append_right path.place.names hname)
  have hpoints := h.place_append hmem
  refine locate_eq_ok_iff.mpr ⟨?_, hlong, ?_⟩
  · rw [hasNull_append, hnull, Bool.false_or, List.any_eq_false]
    intro name hname
    simpa using fun c hc => (hnamed name hname).nullless c hc
  · have hparts : (path.append names).parts = path.parts ++ names := rfl
    have horigin : (path.append names).origin = path.origin := rfl
    rw [hpoints.2, hparts, horigin, locateFrom_append, hfrom]
    refine h.locateFrom_below (by simp [h.entryAt?_eq hmem]) fun name hname => ⟨?_, ?_⟩
    · rintro rfl
      exact hpoints.1 hname
    · exact (hnamed name hname).short

/-- The files that are found below a directory are those at paths below its path. -/
lemma Stored.mem_filesBelow_iff (h : tree.Stored) (hdirectory : tree.isDirectory path = .ok true)
    (hfiles : tree.filesBelow path = .ok files) :
    found ∈ files ↔ found.IsBelow path ∧ tree.isFile found = .ok true := by
  obtain ⟨hlocate, hentry⟩ := isDirectory_eq_true_iff.mp hdirectory
  rw [FileTree.mem_filesBelow_iff hlocate hfiles]
  constructor
  · rintro ⟨names, octets, rfl, hmem⟩
    obtain ⟨hpoints, hplace⟩ := h.place_append hmem
    have hfile : tree.entryAt? (path.append names).place = some (.file octets) := by
      rw [hplace, h.entryAt?_eq hmem]
    refine ⟨⟨names, ?_, hpoints, rfl⟩, isFile_eq_true_iff.mpr ⟨octets, read_eq_ok_iff.mpr ⟨?_, ?_⟩⟩⟩
    · -- the directory itself is no file
      rintro rfl
      rw [Path.place_append, Place.follow_nil, hentry] at hfile
      cases hfile
    · have hbelow := (mem_entriesBelow_iff hlocate).mpr ⟨names, rfl, hmem⟩
      exact h.locate_append hlocate hmem (length_le_of_filesBelow hfiles hbelow)
    · exact fileAt?_eq_some_iff.mpr hfile
  · rintro ⟨⟨names, -, hpoints, rfl⟩, hfile⟩
    obtain ⟨octets, hread⟩ := isFile_eq_true_iff.mp hfile
    have hmem := mem_entries_of_fileAt? (read_eq_ok_iff.mp hread).2
    rw [Path.place_append, Place.follow_names _ hpoints] at hmem
    exact ⟨names, octets, rfl, hmem⟩

/-! ### Selected files -/

/-- Whether paths select a file: it is one of them, or it is found below one of them and its suffix
is wanted, no matter in which case it is written. -/
def Selects (tree : FileTree) (suffixes : List String) (paths : List Path) (file : Path) : Prop :=
  tree.isFile file = .ok true ∧
    (file ∈ paths ∨
      (∃ directory ∈ paths, tree.isDirectory directory = .ok true ∧ file.IsBelow directory) ∧
        ∃ wanted ∈ suffixes, lowercase file.suffix = lowercase wanted)

lemma hasSuffix_iff :
    hasSuffix suffixes path = true ↔
      ∃ wanted ∈ suffixes, lowercase path.suffix = lowercase wanted := by
  simp [hasSuffix, eq_comm]

/-- What one path gives is what it selects. -/
lemma Stored.mem_filesAt_iff (h : tree.Stored) {given : List Path}
    (hgiven : tree.filesAt suffixes path = .ok given) :
    found ∈ given ↔ tree.Selects suffixes [path] found := by
  obtain ⟨isDirectory, hdirectory, hrest⟩ := except_bind_eq_ok.mp hgiven
  cases isDirectory with
  | true =>
      rw [filesAt_directory hdirectory] at hgiven
      obtain ⟨all, hall, rfl⟩ := except_map_eq_ok.mp hgiven
      have hself : tree.isFile found = .ok true → found ≠ path := by
        rintro hfile rfl
        exact isFile_ne_true_of_isDirectory hdirectory hfile
      rw [List.mem_filter, h.mem_filesBelow_iff hdirectory hall, hasSuffix_iff, Selects]
      simp only [List.mem_singleton, exists_eq_left, hdirectory, true_and]
      tauto
  | false =>
      obtain ⟨isFile, hfile, hrest⟩ := except_bind_eq_ok.mp hrest
      rw [Selects]
      simp only [List.mem_singleton, exists_eq_left, hdirectory, Except.ok.injEq,
        Bool.false_eq_true, false_and, or_false]
      cases isFile with
      | true =>
          cases hrest
          rw [List.mem_singleton, and_iff_right_of_imp]
          rintro rfl
          exact hfile
      | false =>
          cases hrest
          refine iff_of_false List.not_mem_nil ?_
          rintro ⟨hfound, rfl⟩
          rw [hfile] at hfound
          cases hfound

/-- Paths select what one of them selects. -/
lemma selects_iff :
    tree.Selects suffixes paths found ↔ ∃ path ∈ paths, tree.Selects suffixes [path] found := by
  simp only [Selects, List.mem_singleton, exists_eq_left]
  constructor
  · rintro ⟨hfile, hfound | ⟨⟨directory, hmem, hbelow⟩, hsuffix⟩⟩
    · exact ⟨found, hfound, hfile, Or.inl rfl⟩
    · exact ⟨directory, hmem, hfile, Or.inr ⟨hbelow, hsuffix⟩⟩
  · rintro ⟨path, hpath, hfile, rfl | ⟨hbelow, hsuffix⟩⟩
    · exact ⟨hfile, Or.inl hpath⟩
    · exact ⟨hfile, Or.inr ⟨⟨path, hpath, hbelow⟩, hsuffix⟩⟩

/-- The files of a selection are those that the paths select. -/
lemma Stored.mem_selectFiles_iff (h : tree.Stored)
    (hfiles : tree.selectFiles suffixes paths = .ok files) :
    found ∈ files ↔ tree.Selects suffixes paths found := by
  obtain ⟨all, hall, -⟩ := selectFiles_eq_ok_iff.mp hfiles
  rw [FileTree.mem_selectFiles_iff hfiles, selects_iff]
  refine exists_congr fun path => and_congr_right fun hpath => ?_
  constructor
  · rintro ⟨given, hgiven, hfound⟩
    exact (h.mem_filesAt_iff hgiven).mp hfound
  · intro hselects
    obtain ⟨given, hgiven⟩ := exists_of_mapM hall hpath
    exact ⟨given, hgiven, (h.mem_filesAt_iff hgiven).mpr hselects⟩

/-- A file that is found below a proper path has a proper path. -/
lemma Stored.proper_of_isBelow (h : tree.Stored) (hpath : path.Proper)
    (hbelow : found.IsBelow path) (hfile : tree.isFile found = .ok true) : found.Proper := by
  obtain ⟨names, -, hpoints, rfl⟩ := hbelow
  obtain ⟨octets, hread⟩ := isFile_eq_true_iff.mp hfile
  have hmem := mem_entries_of_fileAt? (read_eq_ok_iff.mp hread).2
  rw [Path.place_append, Place.follow_names _ hpoints] at hmem
  refine ⟨hpath.anchor, fun part hpart => ?_⟩
  rcases List.mem_append.mp hpart with hpart | hpart
  · exact hpath.parts part hpart
  · exact ((h.named _ hmem).2 part (List.mem_append_right _ hpart)).slashless

lemma Stored.proper_of_selects (h : tree.Stored) (hpaths : ∀ path ∈ paths, path.Proper)
    (hselects : tree.Selects suffixes paths found) : found.Proper := by
  obtain ⟨hfile, hfound | ⟨⟨directory, hmem, -, hbelow⟩, -⟩⟩ := hselects
  · exact hpaths found hfound
  · exact h.proper_of_isBelow (hpaths directory hmem) hbelow hfile

/-- The files of a selection stand in the order of paths, each of them once. -/
lemma pairwise_selectFiles (hfiles : tree.selectFiles suffixes paths = .ok files)
    (hproper : ∀ file ∈ files, file.Proper) : files.Pairwise Path.ComesBefore := by
  have hsorted : files.Pairwise fun a b => a.before b = true := by
    obtain ⟨all, -, rfl⟩ := selectFiles_eq_ok_iff.mp hfiles
    have hsorted := List.pairwise_mergeSort (fun a b c => Path.before_trans (a := a) (b := b)
      (c := c)) Path.before_total all.flatten
    exact hsorted.sublist (eraseDups_sublist _)
  refine (hsorted.and (nodup_selectFiles hfiles)).imp_of_mem fun {a b} ha hb hab => ?_
  refine (Path.before_iff.mp hab.1).resolve_left fun hkey => hab.2 ?_
  exact Path.sortKey_injective (hproper a ha) (hproper b hb) hkey

/-- There is one list of the same files in the order of paths. -/
lemma eq_of_pairwise_comesBefore {others : List Path} (hfiles : files.Pairwise Path.ComesBefore)
    (hothers : others.Pairwise Path.ComesBefore) (hsame : ∀ file, file ∈ files ↔ file ∈ others) :
    files = others := by
  have hasymm : ∀ a b : Path, a.ComesBefore b → ¬ b.ComesBefore a :=
    fun a b => (List.Lex.asymm (· < ·)).asymm _ _
  have hnodup : ∀ {list : List Path}, list.Pairwise Path.ComesBefore → list.Nodup := by
    refine fun hlist => hlist.imp fun {a b} hab heq => ?_
    subst heq
    exact hasymm a a hab hab
  refine List.Perm.eq_of_pairwise (fun a b _ _ hab hba => absurd hba (hasymm a b hab)) hfiles
    hothers ?_
  exact (List.perm_ext_iff_of_nodup (hnodup hfiles) (hnodup hothers)).mpr hsame

/-! ### When there is a selection -/

/-- Whether a path is looked at for a selection: it is one of the given ones, or there is something
at it below a given directory. -/
def LooksAt (tree : FileTree) (paths : List Path) (path : Path) : Prop :=
  path ∈ paths ∨
    ∃ directory ∈ paths, tree.isDirectory directory = .ok true ∧ path.IsBelow directory ∧
      tree.entryAt? path.place ≠ none

/-- The path of a directory is not too long, so what is too long there is something below it. -/
lemma Stored.filesBelow_eq_error (h : tree.Stored) (hdirectory : tree.isDirectory path = .ok true)
    (hfault : tree.filesBelow path = .error fault) :
    fault.cause = .nameTooLong ∧ ¬ fault.path.WithinLimits ∧ fault.path.IsBelow path ∧
      tree.entryAt? fault.path.place ≠ none := by
  obtain ⟨hlocate, -⟩ := isDirectory_eq_true_iff.mp hdirectory
  obtain ⟨found, entry, hbelow, rfl, hlong⟩ := FileTree.filesBelow_eq_error hfault
  obtain ⟨names, rfl, hmem⟩ := (mem_entriesBelow_iff hlocate).mp hbelow
  obtain ⟨hpoints, hplace⟩ := h.place_append hmem
  have hpresent : tree.entryAt? (path.append names).place ≠ none := by
    rw [hplace, h.entryAt?_eq hmem]
    exact Option.some_ne_none entry
  refine ⟨rfl, fun hlimits => absurd hlimits.1 (not_le.mpr hlong), ⟨names, ?_, hpoints, rfl⟩,
    hpresent⟩
  rintro rfl
  have hself : path.append [] = path := by simp [Path.append]
  rw [hself] at hlong
  exact absurd (locate_eq_ok_iff.mp hlocate).2.1 (not_le.mpr hlong)

/-- A path gives files unless it is too long, or something below it is. -/
lemma Stored.filesAt_eq_error (h : tree.Stored)
    (hfault : tree.filesAt suffixes path = .error fault) :
    fault.cause = .nameTooLong ∧ ¬ fault.path.WithinLimits ∧ tree.LooksAt [path] fault.path := by
  cases hdirectory : tree.isDirectory path with
  | error other =>
      rw [filesAt, hdirectory] at hfault
      obtain rfl := Except.error.inj hfault
      obtain ⟨rfl, hlong⟩ := isDirectory_eq_error hdirectory
      exact ⟨rfl, hlong, Or.inl (List.mem_singleton_self _)⟩
  | ok isDirectory =>
      cases isDirectory with
      | true =>
          rw [filesAt_directory hdirectory, except_map_eq_error] at hfault
          obtain ⟨hcause, hlong, hbelow⟩ := h.filesBelow_eq_error hdirectory hfault
          exact ⟨hcause, hlong, Or.inr ⟨path, List.mem_singleton_self _, hdirectory, hbelow⟩⟩
      | false =>
          rw [filesAt, hdirectory] at hfault
          cases hfile : tree.isFile path with
          | ok isFile =>
              rw [hfile] at hfault
              cases isFile <;> cases hfault
          | error other =>
              rw [hfile] at hfault
              obtain rfl := Except.error.inj hfault
              obtain ⟨rfl, hlong⟩ := isFile_eq_error hfile
              exact ⟨rfl, hlong, Or.inl (List.mem_singleton_self _)⟩

/-- A directory below one that gives files gives files. -/
lemma exists_filesAt_below {above : Path} {given : List Path}
    (habove : tree.isDirectory above = .ok true) (hgiven : tree.filesAt suffixes above = .ok given)
    (hbelow : path.IsBelow above) (hpath : tree.isDirectory path = .ok true) :
    ∃ given, tree.filesAt suffixes path = .ok given := by
  obtain ⟨names, -, hpoints, rfl⟩ := hbelow
  obtain ⟨hlocate, -⟩ := isDirectory_eq_true_iff.mp habove
  obtain ⟨hlocate', -⟩ := isDirectory_eq_true_iff.mp hpath
  rw [filesAt_directory habove] at hgiven
  obtain ⟨all, hall, -⟩ := except_map_eq_ok.mp hgiven
  have hlimits : ∀ found entry, (found, entry) ∈ tree.entriesBelow (above.append names) →
      utf8Length found.render ≤ maxPathLength := by
    intro found entry hfound
    obtain ⟨more, rfl, hmem⟩ := (mem_entriesBelow_iff hlocate').mp hfound
    rw [Path.place_append, Place.follow_names _ hpoints] at hmem
    have hmem' : (above.place.below (names ++ more), entry) ∈ tree.entries := by
      simpa only [Place.below, List.append_assoc] using hmem
    exact length_le_of_filesBelow hall ((mem_entriesBelow_iff hlocate).mpr
      ⟨names ++ more, Path.append_append _ _ _, hmem'⟩)
  obtain ⟨files, hfiles⟩ := exists_filesBelow hlimits
  exact ⟨_, by rw [filesAt_directory hpath, hfiles]; rfl⟩

/-- Whether other paths hold given ones, and beyond them only files that those select and
directories below those. -/
structure Covers (tree : FileTree) (suffixes : List String) (paths others : List Path) : Prop where
  held : ∀ path ∈ paths, path ∈ others
  known : ∀ path ∈ others, path ∈ paths ∨ tree.Selects suffixes paths path ∨
    tree.isDirectory path = .ok true ∧
      ∃ directory ∈ paths, tree.isDirectory directory = .ok true ∧ path.IsBelow directory

lemma Covers.selects_iff {others : List Path} (h : tree.Covers suffixes paths others) :
    tree.Selects suffixes others found ↔ tree.Selects suffixes paths found := by
  constructor
  · rintro ⟨hfile, hfound | ⟨⟨directory, hmem, hdirectory, hbelow⟩, hsuffix⟩⟩
    · rcases h.known found hfound with hpath | hselects | ⟨hdirectory, -⟩
      · exact ⟨hfile, Or.inl hpath⟩
      · exact hselects
      · exact absurd hfile (isFile_ne_true_of_isDirectory hdirectory)
    · refine ⟨hfile, Or.inr ⟨?_, hsuffix⟩⟩
      rcases h.known directory hmem with hpath | hselects | ⟨-, top, hpath, htop, habove⟩
      · exact ⟨directory, hpath, hdirectory, hbelow⟩
      · exact absurd hselects.1 (isFile_ne_true_of_isDirectory hdirectory)
      · exact ⟨top, hpath, htop, hbelow.trans habove⟩
  · rintro ⟨hfile, hfound | ⟨⟨directory, hmem, hbelow⟩, hsuffix⟩⟩
    · exact ⟨hfile, Or.inl (h.held found hfound)⟩
    · exact ⟨hfile, Or.inr ⟨⟨directory, h.held directory hmem, hbelow⟩, hsuffix⟩⟩

/-- Covering paths give files if the paths do. -/
lemma exists_filesAt_of_covers {others : List Path}
    (hfiles : tree.selectFiles suffixes paths = .ok files)
    (hcovers : tree.Covers suffixes paths others) :
    ∀ path ∈ others, ∃ given, tree.filesAt suffixes path = .ok given := by
  obtain ⟨all, hall, -⟩ := selectFiles_eq_ok_iff.mp hfiles
  intro path hpath
  rcases hcovers.known path hpath with hold | hselects | ⟨hdirectory, top, htop, habove, hbelow⟩
  · exact exists_of_mapM hall hold
  · exact ⟨[path], filesAt_file hselects.1⟩
  · obtain ⟨given, hgiven⟩ := exists_of_mapM hall htop
    exact exists_filesAt_below habove hgiven hbelow hdirectory

/-- Covering paths select the same files. -/
lemma Stored.selectFiles_of_covers (h : tree.Stored) {others : List Path}
    (hproper : ∀ file ∈ files, file.Proper)
    (hfiles : tree.selectFiles suffixes paths = .ok files)
    (hcovers : tree.Covers suffixes paths others) :
    tree.selectFiles suffixes others = .ok files := by
  obtain ⟨all, hall⟩ := exists_mapM (exists_filesAt_of_covers hfiles hcovers)
  have hsome := selectFiles_eq_ok_iff.mpr ⟨all, hall, rfl⟩
  have hsame : ∀ file, file ∈ _ ↔ file ∈ files := fun file => by
    rw [h.mem_selectFiles_iff hsome, h.mem_selectFiles_iff hfiles, hcovers.selects_iff]
  rw [hsome, eq_of_pairwise_comesBefore (pairwise_selectFiles hsome fun file hfile =>
    hproper file ((hsame file).mp hfile)) (pairwise_selectFiles hfiles hproper) hsame]

end FileTree

/-- **The selection is exact**: the given paths select a list of files, or something that is looked
at has a path that is too long, and that path is the fault. The list stands in the order of paths
and holds the files that are given, and those below given directories whose suffix is wanted; and it
stays the same when paths are given in another order or repeatedly, or what is selected already is
given as well. -/
theorem selectFiles_exact {tree : FileTree} {paths : List Path} (h : tree.Stored)
    (hpaths : ∀ path ∈ paths, path.Proper) (suffixes : List String) :
    ((∃ files, tree.selectFiles suffixes paths = .ok files) ∨
      ∃ long, tree.selectFiles suffixes paths = .error ⟨.nameTooLong, long⟩ ∧
        ¬ long.WithinLimits ∧ tree.LooksAt paths long) ∧
    ∀ files, tree.selectFiles suffixes paths = .ok files →
      files.Pairwise Path.ComesBefore ∧
      (∀ path, path ∈ files ↔ tree.Selects suffixes paths path) ∧
      ∀ others, tree.Covers suffixes paths others →
        tree.selectFiles suffixes others = .ok files := by
  refine ⟨?_, fun files hfiles => ?_⟩
  case refine_2 =>
    have hproper : ∀ file ∈ files, file.Proper := fun file hfile =>
      h.proper_of_selects hpaths ((h.mem_selectFiles_iff hfiles).mp hfile)
    exact ⟨FileTree.pairwise_selectFiles hfiles hproper, fun path => h.mem_selectFiles_iff hfiles,
      fun others hcovers => h.selectFiles_of_covers hproper hfiles hcovers⟩
  cases hall : paths.mapM (tree.filesAt suffixes) with
  | ok all => exact Or.inl ⟨_, FileTree.selectFiles_eq_ok_iff.mpr ⟨all, hall, rfl⟩⟩
  | error fault =>
      obtain ⟨path, hpath, hfault⟩ := exists_of_mapM_error hall
      obtain ⟨hcause, hlong, hwhere⟩ := h.filesAt_eq_error hfault
      refine Or.inr ⟨fault.path, ?_, hlong, ?_⟩
      · rw [FileTree.selectFiles, hall, ← hcause]
        rfl
      · rcases hwhere with hself | ⟨directory, hself, hbelow⟩
        · exact Or.inl (List.mem_singleton.mp hself ▸ hpath)
        · exact Or.inr ⟨directory, List.mem_singleton.mp hself ▸ hpath, hbelow⟩

/-- Names with points at all places, in a directory and in one below it. -/
def pointedTree : FileTree :=
  .ofEntries []
    [(.ofString "d/.tsx", []), (.ofString "d/a.b.TSX", []), (.ofString "d/e.", []),
      (.ofString "d/sub/x.jsx", [])]

/-- Of the names with points, two have a suffix that is wanted. They are selected once, although
they are below two given directories and one of them is given itself. -/
theorem selectFiles_exact_pointed :
    pointedTree.Stored ∧ (∀ path ∈ [Path.ofString "d"], path.Proper) ∧
      pointedTree.selectFiles defaultSuffixes
          [.ofString "d/sub", .ofString "d", .ofString "d/a.b.TSX", .ofString "d"] =
        .ok [.ofString "d/a.b.TSX", .ofString "d/sub/x.jsx"] := by
  have hstored : pointedTree.Stored := stored_ofEntries (by simp) (by simp [Path.proper_ofString])
  have hproper : ∀ path ∈ [Path.ofString "d"], path.Proper := by simp [Path.proper_ofString]
  have hfiles : pointedTree.selectFiles defaultSuffixes [.ofString "d"] =
      .ok [.ofString "d/a.b.TSX", .ofString "d/sub/x.jsx"] :=
    FileTree.selectFiles_of_sorted (by decide +kernel) (by decide +kernel) (by decide +kernel)
  obtain ⟨-, hselect⟩ := (selectFiles_exact hstored hproper defaultSuffixes).2 _ hfiles
  have hdirectory : ∀ path ∈ [Path.ofString "d", .ofString "d/sub"],
      pointedTree.isDirectory path = .ok true := by decide +kernel
  refine ⟨hstored, hproper, hselect.2 _ ⟨by simp, fun path hpath => ?_⟩⟩
  simp only [List.mem_cons, List.not_mem_nil, or_false] at hpath
  rcases hpath with rfl | rfl | rfl | rfl
  · refine Or.inr (Or.inr ⟨hdirectory _ (by simp), _, List.mem_singleton_self _,
      hdirectory _ (by simp), ["sub"], by simp, by simp, by decide +kernel⟩)
  · exact Or.inl (List.mem_singleton_self _)
  · exact Or.inr (Or.inl ((hselect.1 _).mp List.mem_cons_self))
  · exact Or.inl (List.mem_singleton_self _)

/-- A name that is too long stops a selection. -/
theorem selectFiles_long_name :
    (FileTree.ofEntries [] [(.ofString "a.tsx", [])]).selectFiles defaultSuffixes
        [{ parts := [String.ofList (List.replicate 256 'a')] }] =
      .error ⟨.nameTooLong, { parts := [String.ofList (List.replicate 256 'a')] }⟩ := by
  have hnull : ∀ c ∈ (String.ofList (List.replicate 256 'a')).toList, c.toNat ≠ 0 := by
    rw [String.toList_ofList]
    intro c hc
    rw [List.eq_of_mem_replicate hc]
    decide
  have hlong : maxNameLength < utf8Length (String.ofList (List.replicate 256 'a')) := by
    rw [utf8Length, String.toList_ofList]
    decide +kernel
  rw [FileTree.selectFiles, List.mapM_cons, FileTree.filesAt, FileTree.isDirectory, FileTree.find,
    FileTree.locate_long_name _ hnull hlong]
  rfl

end SourceLayers
