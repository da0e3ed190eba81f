/-
Finite sets of names:

* `NameSet`: the names in increasing order, each once, so that a set has one form;
* `insert`, `insertAll`, `removeAll`, `ofList`, `contains`: the operations, with what they do to
  membership;
* `NameSet.ext_mem`: sets with the same members are the same.
-/

namespace SourceLayers

/-- A name put into an increasing list, unless it is there already. -/
def insertName (name : String) : List String → List String
  | [] => [name]
  | other :: rest =>
    if name < other then name :: other :: rest
    else if name = other then other :: rest
    else other :: insertName name rest

/-- The list has the new name and the old ones. -/
theorem mem_insertName {name x : String} {names : List String} :
    x ∈ insertName name names ↔ x = name ∨ x ∈ names := by
  induction names with
  | nil => simp [insertName]
  | cons other rest ih =>
    unfold insertName
    split
    · simp
    · split
      · simp_all
      · simp only [List.mem_cons, ih]
        exact ⟨fun h => by rcases h with h | h | h <;> simp [h],
          fun h => by rcases h with h | h | h <;> simp [h]⟩

/-- The list stays increasing. -/
theorem pairwise_insertName (name : String) {names : List String}
    (h : names.Pairwise (· < ·)) : (insertName name names).Pairwise (· < ·) := by
  induction names with
  | nil => simp [insertName]
  | cons other rest ih =>
    rw [List.pairwise_cons] at h
    unfold insertName
    split
    · rename_i hlt
      refine List.pairwise_cons.2 ⟨fun x hx => ?_, List.pairwise_cons.2 h⟩
      rcases List.mem_cons.1 hx with rfl | hx
      · exact hlt
      · exact String.lt_trans hlt (h.1 x hx)
    · split
      · exact List.pairwise_cons.2 h
      · rename_i hge hne
        refine List.pairwise_cons.2 ⟨fun x hx => ?_, ih h.2⟩
        rcases mem_insertName.1 hx with rfl | hx
        · exact Std.lt_of_le_of_ne hge fun heq => hne heq.symm
        · exact h.1 x hx

/-- Increasing lists with the same members are the same. -/
theorem eq_of_mem_iff_mem {xs ys : List String} (hxs : xs.Pairwise (· < ·))
    (hys : ys.Pairwise (· < ·)) (h : ∀ x, x ∈ xs ↔ x ∈ ys) : xs = ys := by
  induction xs generalizing ys with
  | nil =>
    cases ys with
    | nil => rfl
    | cons y ys => exact absurd ((h y).2 (by simp)) (by simp)
  | cons x xs ih =>
    cases ys with
    | nil => exact absurd ((h x).1 (by simp)) (by simp)
    | cons y ys =>
      rw [List.pairwise_cons] at hxs hys
      -- the two first names are at most each other
      have hxy : x = y := by
        rcases List.mem_cons.1 ((h x).1 (by simp)) with hx | hx
        · exact hx
        · rcases List.mem_cons.1 ((h y).2 (by simp)) with hy | hy
          · exact hy.symm
          · exact absurd (hys.1 x hx) (String.lt_asymm (hxs.1 y hy))
      subst hxy
      rw [ih hxs.2 hys.2 fun z => ?_]
      constructor
      · intro hz
        rcases List.mem_cons.1 ((h z).1 (List.mem_cons_of_mem _ hz)) with rfl | hz'
        · exact absurd (hxs.1 z hz) (String.lt_irrefl z)
        · exact hz'
      · intro hz
        rcases List.mem_cons.1 ((h z).2 (List.mem_cons_of_mem _ hz)) with rfl | hz'
        · exact absurd (hys.1 z hz) (String.lt_irrefl z)
        · exact hz'

/-- A finite set of names. -/
structure NameSet where
  /-- The names in increasing order. -/
  toList : List String
  increasing : toList.Pairwise (· < ·)
  deriving DecidableEq

namespace NameSet

instance : Membership String NameSet :=
  ⟨fun set name => name ∈ set.toList⟩

/-- Membership is membership in the list of names. -/
theorem mem_def {name : String} {set : NameSet} : name ∈ set ↔ name ∈ set.toList :=
  Iff.rfl

instance (name : String) (set : NameSet) : Decidable (name ∈ set) :=
  inferInstanceAs (Decidable (name ∈ set.toList))

/-- The set without members. -/
def empty : NameSet :=
  ⟨[], List.Pairwise.nil⟩

/-- Whether a name is in the set. -/
def contains (set : NameSet) (name : String) : Bool :=
  decide (name ∈ set)

/-- The set with one more name. -/
def insert (set : NameSet) (name : String) : NameSet :=
  ⟨insertName name set.toList, pairwise_insertName name set.increasing⟩

/-- The set with more names. -/
def insertAll (set : NameSet) (names : List String) : NameSet :=
  names.foldl insert set

/-- The set without some names. -/
def removeAll (set : NameSet) (names : List String) : NameSet :=
  ⟨set.toList.filter fun name => !names.contains name, set.increasing.filter _⟩

/-- The set of the names in a list. -/
def ofList (names : List String) : NameSet :=
  empty.insertAll names

@[simp] theorem not_mem_empty (name : String) : ¬ name ∈ empty := by
  simp [mem_def, empty]

@[simp] theorem contains_iff {set : NameSet} {name : String} :
    set.contains name = true ↔ name ∈ set := by
  simp [contains]

@[simp] theorem mem_insert {set : NameSet} {name x : String} :
    x ∈ set.insert name ↔ x = name ∨ x ∈ set := by
  simp [mem_def, insert, mem_insertName]

@[simp] theorem mem_insertAll {set : NameSet} {names : List String} {x : String} :
    x ∈ set.insertAll names ↔ x ∈ set ∨ x ∈ names := by
  unfold insertAll
  induction names generalizing set with
  | nil => simp
  | cons name rest ih =>
    rw [List.foldl_cons, ih, mem_insert, List.mem_cons]
    exact ⟨fun h => by rcases h with (h | h) | h <;> simp [h],
      fun h => by rcases h with h | h | h <;> simp [h]⟩

@[simp] theorem mem_removeAll {set : NameSet} {names : List String} {x : String} :
    x ∈ set.removeAll names ↔ x ∈ set ∧ ¬ x ∈ names := by
  simp [mem_def, removeAll]

@[simp] theorem mem_ofList {names : List String} {x : String} :
    x ∈ ofList names ↔ x ∈ names := by
  simp [ofList]

/-- Sets with the same members are the same. -/
theorem ext_mem {a b : NameSet} (h : ∀ name, name ∈ a ↔ name ∈ b) : a = b := by
  cases a with
  | mk xs hxs =>
    cases b with
    | mk ys hys =>
      have := eq_of_mem_iff_mem hxs hys h
      subst this
      rfl

end NameSet

end SourceLayers
