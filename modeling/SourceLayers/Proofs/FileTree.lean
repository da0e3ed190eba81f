/-
Where paths lead in a tree of files:

* `Path.place`: the place that the parts of a path name, each pair of points going one level up.
  A path that leads somewhere leads there (`place_of_locate`), since there are no detours;
* `FileTree.locateFrom_append`, `FileTree.locateFrom_of_directories`: paths are followed part by
  part, and only directories on the way matter;
* `FileTree.fileAt?`: the octets of the file at a place, if there is one;
* `FileTree.entryAt?_put`: what stands where after something is put at a place;
* `FileTree.read_eq_ok_iff`, `FileTree.isFile_eq_true_iff`: what is read and found at a path, by
  places.
-/
import Mathlib.Tactic
import SourceLayers.FileTree.Load

namespace SourceLayers

/-! ### Places -/

namespace Place

/-- The place that further parts name from a place on. -/
def follow (place : Place) : List String → Place
  | [] => place
  | part :: rest => (if part = ".." then place.up else place.child part).follow rest

@[simp] lemma follow_nil (place : Place) : place.follow [] = place := rfl

lemma follow_cons (place : Place) (part : String) (rest : List String) :
    place.follow (part :: rest) =
      (if part = ".." then place.up else place.child part).follow rest :=
  rfl

lemma follow_append (place : Place) (parts more : List String) :
    place.follow (parts ++ more) = (place.follow parts).follow more := by
  induction parts generalizing place with
  | nil => rfl
  | cons part rest ih => rw [List.cons_append, follow_cons, ih, follow_cons]

/-- Names, as opposed to two points, only lead down. -/
lemma follow_names (place : Place) {names : List String} (h : ".." ∉ names) :
    place.follow names = { place with names := place.names ++ names } := by
  induction names generalizing place with
  | nil => rw [follow_nil, List.append_nil]
  | cons name rest ih =>
      rw [List.mem_cons, not_or] at h
      rw [follow_cons, if_neg (Ne.symm h.1), ih _ h.2, child, List.append_assoc,
        List.singleton_append]

end Place

/-- The directory that a path is counted from. -/
def Path.origin (path : Path) : Place :=
  { origin := if path.anchor = "" then .above 0 else .root, names := [] }

/-- The place that the parts of a path name. -/
def Path.place (path : Path) : Place :=
  path.origin.follow path.parts

lemma Path.place_append (path : Path) (names : List String) :
    (path.append names).place = path.place.follow names :=
  Place.follow_append path.origin path.parts names

namespace FileTree

variable {tree other : FileTree} {place found : Place} {path : Path} {parts : List String}
  {octets : List UInt8} {entry : Entry}

/-! ### Following a path -/

lemma locateFrom_cons {part : String} {rest : List String}
    (h : tree.locateFrom place (part :: rest) = .ok found) :
    tree.entryAt? place = some .directory ∧
      tree.locateFrom (if part = ".." then place.up else place.child part) rest = .ok found := by
  rw [locateFrom] at h
  cases hentry : tree.entryAt? place with
  | none => rw [hentry] at h; cases h
  | some entry =>
      rw [hentry] at h
      cases entry with
      | file octets => cases h
      | directory =>
          refine ⟨rfl, ?_⟩
          simp only at h
          split_ifs at h ⊢ <;> exact h

/-- A path leads to the place that its parts name. -/
lemma follow_of_locateFrom (h : tree.locateFrom place parts = .ok found) :
    found = place.follow parts := by
  induction parts generalizing place with
  | nil => exact (Except.ok.inj h).symm
  | cons part rest ih => exact ih (locateFrom_cons h).2

lemma locateFrom_append (tree : FileTree) (place : Place) (parts more : List String) :
    tree.locateFrom place (parts ++ more) =
      (tree.locateFrom place parts).bind fun found => tree.locateFrom found more := by
  induction parts generalizing place with
  | nil => rfl
  | cons part rest ih =>
      rw [List.cons_append, locateFrom, locateFrom]
      cases tree.entryAt? place with
      | none => rfl
      | some entry =>
          cases entry with
          | file octets => rfl
          | directory =>
              simp only [ih]
              split_ifs <;> rfl

/-- Where all directories of a tree are directories, its paths lead to the same places. -/
lemma locateFrom_of_directories
    (hkept : ∀ place, tree.entryAt? place = some .directory →
      other.entryAt? place = some .directory)
    (h : tree.locateFrom place parts = .ok found) : other.locateFrom place parts = .ok found := by
  induction parts generalizing place with
  | nil => exact h
  | cons part rest ih =>
      have hplace := hkept place (locateFrom_cons h).1
      rw [locateFrom, (locateFrom_cons h).1] at h
      rw [locateFrom, hplace]
      simp only at h ⊢
      split_ifs at h ⊢ <;> exact ih h

lemma locate_eq_ok_iff :
    tree.locate path = .ok found ↔
      path.hasNull = false ∧ utf8Length path.render ≤ maxPathLength ∧
        tree.locateFrom path.origin path.parts = .ok found := by
  rw [locate, ← Path.origin]
  by_cases hnull : path.hasNull = true
  · rw [if_pos hnull]
    simp [hnull]
  · rw [if_neg hnull, Bool.not_eq_true] at *
    by_cases hlong : maxPathLength < utf8Length path.render
    · rw [if_pos hlong]
      simp [hlong]
    · rw [if_neg hlong]
      simp [hnull, Nat.le_of_not_lt hlong]

/-- A path that leads somewhere leads to the place that its parts name. -/
lemma place_of_locate (h : tree.locate path = .ok found) : found = path.place :=
  follow_of_locateFrom (locate_eq_ok_iff.mp h).2.2

lemma locate_of_directories
    (hkept : ∀ place, tree.entryAt? place = some .directory →
      other.entryAt? place = some .directory)
    (h : tree.locate path = .ok found) : other.locate path = .ok found := by
  obtain ⟨hnull, hlong, hfrom⟩ := locate_eq_ok_iff.mp h
  exact locate_eq_ok_iff.mpr ⟨hnull, hlong, locateFrom_of_directories hkept hfrom⟩

/-! ### Entries and files -/

/-- The octets of the file at a place. -/
def fileAt? (tree : FileTree) (place : Place) : Option (List UInt8) :=
  match tree.entryAt? place with
  | some (.file octets) => some octets
  | _ => none

lemma fileAt?_eq_some_iff :
    tree.fileAt? place = some octets ↔ tree.entryAt? place = some (.file octets) := by
  rw [fileAt?]
  split <;> simp_all

lemma fileAt?_eq_none_iff :
    tree.fileAt? place = none ↔
      tree.entryAt? place = none ∨ tree.entryAt? place = some .directory := by
  rw [fileAt?]
  cases tree.entryAt? place with
  | none => simp
  | some entry => cases entry <;> simp

lemma fileAt?_congr (h : other.entryAt? place = tree.entryAt? place) :
    other.fileAt? place = tree.fileAt? place := by
  rw [fileAt?, fileAt?, h]

lemma lookup_cons_of_ne {key other : Place} (h : other ≠ key) (entry : Entry)
    (rest : List (Place × Entry)) : ((key, entry) :: rest).lookup other = rest.lookup other := by
  rw [List.lookup_cons, beq_eq_false_iff_ne.mpr h]

/-- Replacing what stands at a place in a list of entries. -/
lemma lookup_replace (entries : List (Place × Entry)) (place other : Place) (entry : Entry)
    (h : ∃ old ∈ entries, old.1 = place) :
    (entries.map fun old => if old.1 == place then (place, entry) else old).lookup other =
      if other = place then some entry else entries.lookup other := by
  induction entries with
  | nil => simp at h
  | cons first rest ih =>
      obtain ⟨key, value⟩ := first
      rw [List.map_cons]
      by_cases hkey : key = place
      · subst hkey
        rw [if_pos (beq_self_eq_true key)]
        by_cases hother : other = key
        · rw [if_pos hother, hother, List.lookup_cons_self]
        · rw [if_neg hother, lookup_cons_of_ne hother, lookup_cons_of_ne hother]
          by_cases hrest : ∃ old ∈ rest, old.1 = key
          · rw [ih hrest, if_neg hother]
          · rw [List.map_congr_left (g := id), List.map_id]
            intro old hold
            exact if_neg fun heq => hrest ⟨old, hold, beq_iff_eq.mp heq⟩
      · have hrest : ∃ old ∈ rest, old.1 = place := by
          obtain ⟨old, hold, heq⟩ := h
          rcases List.mem_cons.mp hold with rfl | hold
          · exact absurd heq hkey
          · exact ⟨old, hold, heq⟩
        rw [if_neg (by simpa using hkey)]
        by_cases hother : other = key
        · rw [hother, List.lookup_cons_self, List.lookup_cons_self, if_neg hkey]
        · rw [lookup_cons_of_ne hother, lookup_cons_of_ne hother, ih hrest]

/-- What stands where after something was put at a place below its origin. -/
lemma entryAt?_put (tree : FileTree) {place : Place} (hnames : place.names ≠ []) (entry : Entry)
    (other : Place) :
    (tree.put place entry).entryAt? other =
      if other = place then some entry else tree.entryAt? other := by
  by_cases hother : other.names.isEmpty = true
  · have hne : other ≠ place := by
      rintro rfl
      exact hnames (List.isEmpty_iff.mp hother)
    rw [entryAt?, entryAt?, if_pos hother, if_pos hother, if_neg hne]
  · rw [entryAt?, entryAt?, if_neg hother, if_neg hother, put]
    by_cases hany : ∃ old ∈ tree.entries, old.1 = place
    · rw [if_pos (by simpa using hany)]
      exact lookup_replace tree.entries place other entry hany
    · rw [if_neg (by simpa using hany), List.lookup_append]
      by_cases heq : other = place
      · have hnone : tree.entries.lookup other = none := by
          rw [List.lookup_eq_none_iff]
          intro old hold
          exact bne_iff_ne.mpr fun hold' => hany ⟨old, hold, by rw [← hold', heq]⟩
        rw [hnone, if_pos heq, heq, List.lookup_cons_self]
        rfl
      · rw [if_neg heq, lookup_cons_of_ne heq]
        simp

/-! ### Reading and finding -/

lemma read_eq_ok_iff :
    tree.read path = .ok octets ↔
      tree.locate path = .ok path.place ∧ tree.fileAt? path.place = some octets := by
  rw [read, fileAt?_eq_some_iff]
  cases hlocate : tree.locate path with
  | error cause => simp
  | ok found =>
      obtain rfl := place_of_locate hlocate
      simp only [true_and]
      cases tree.entryAt? path.place with
      | none => simp
      | some entry => cases entry <;> simp

lemma find_eq_some_iff :
    tree.find path = .ok (some entry) ↔
      tree.locate path = .ok path.place ∧ tree.entryAt? path.place = some entry := by
  rw [find]
  cases hlocate : tree.locate path with
  | error cause => cases cause <;> simp
  | ok found =>
      obtain rfl := place_of_locate hlocate
      simp

lemma isFile_eq_true_iff :
    tree.isFile path = .ok true ↔ ∃ octets, tree.read path = .ok octets := by
  have hfind : tree.isFile path = .ok true ↔
      ∃ octets, tree.find path = .ok (some (.file octets)) := by
    rw [isFile]
    cases tree.find path with
    | error error => simp [Functor.map, Except.map]
    | ok entry =>
        cases entry with
        | none => simp [Functor.map, Except.map]
        | some entry => cases entry <;> simp [Functor.map, Except.map]
  simp only [hfind, find_eq_some_iff, read_eq_ok_iff, fileAt?_eq_some_iff]

lemma isDirectory_eq_true_iff :
    tree.isDirectory path = .ok true ↔
      tree.locate path = .ok path.place ∧ tree.entryAt? path.place = some .directory := by
  rw [← find_eq_some_iff, isDirectory]
  cases tree.find path with
  | error error => simp [Functor.map, Except.map]
  | ok entry =>
      cases entry with
      | none => simp [Functor.map, Except.map]
      | some entry => cases entry <;> simp [Functor.map, Except.map]

end FileTree

end SourceLayers
