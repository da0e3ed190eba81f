/-
Results that may fail:

* `except_bind_eq_ok`, `except_map_eq_ok`, `mapM_eq_ok_iff`: computations that succeeded, taken
  apart;
* `FileM`: changes of a tree of files with faults of any kind;
* `run_bind` and its like: such a change is a result and the tree after it, step by step. What was
  done before a fault stays done;
* `run_bind_snd`: what relates a tree to the one after it is shown step by step.
-/
import Mathlib.Tactic
import SourceLayers.FileTree.Basic

namespace SourceLayers

variable {ε ε' α β : Type}

/-! ### Values or faults -/

/-- The step from one result to the next in a chain that may fault. -/
lemma except_bind_eq_ok {x : Except ε α} {f : α → Except ε β} {b : β} :
    x.bind f = .ok b ↔ ∃ a, x = .ok a ∧ f a = .ok b := by
  cases x <;> simp [Except.bind]

lemma except_map_eq_ok {f : α → β} {x : Except ε α} {b : β} :
    f <$> x = .ok b ↔ ∃ a, x = .ok a ∧ f a = b := by
  cases x <;> simp [Functor.map, Except.map]

lemma except_map_eq_error {f : α → β} {x : Except ε α} {e : ε} :
    f <$> x = .error e ↔ x = .error e := by
  cases x <;> simp [Functor.map, Except.map]

/-- A result that passes a check is there. -/
lemma exists_of_any {x : Except ε α} {check : α → Bool} (h : x.toOption.any check = true) :
    ∃ a, x = .ok a ∧ check a = true := by
  cases x with
  | error e => cases h
  | ok a => exact ⟨a, rfl, h⟩

/-- Going through a list with something that may fail succeeds if it does so for every item. -/
lemma mapM_eq_ok_iff {f : α → Except ε β} {xs : List α} {ys : List β} :
    xs.mapM f = .ok ys ↔ List.Forall₂ (fun x y => f x = .ok y) xs ys := by
  induction xs generalizing ys with
  | nil => cases ys <;> simp [pure, Except.pure]
  | cons x xs ih =>
      rw [List.mapM_cons]
      constructor
      · intro h
        obtain ⟨y, hy, h⟩ := except_bind_eq_ok.mp h
        obtain ⟨rest, hrest, h⟩ := except_bind_eq_ok.mp h
        cases h
        exact .cons hy (ih.mp hrest)
      · rintro (_ | ⟨hy, hrest⟩)
        rw [hy, ih.mpr hrest]
        rfl

/-- The items of the result are what the items of the list give. -/
lemma mem_iff_of_mapM {f : α → Except ε β} {xs : List α} {ys : List β} (h : xs.mapM f = .ok ys)
    {y : β} : y ∈ ys ↔ ∃ x ∈ xs, f x = .ok y := by
  rw [mapM_eq_ok_iff] at h
  induction h with
  | nil => simp
  | cons hfirst _ ih => simp [ih, hfirst, eq_comm]

lemma exists_of_mapM {f : α → Except ε β} {xs : List α} {ys : List β} (h : xs.mapM f = .ok ys)
    {x : α} (hx : x ∈ xs) : ∃ y, f x = .ok y := by
  rw [mapM_eq_ok_iff] at h
  induction h with
  | nil => exact absurd hx List.not_mem_nil
  | cons hfirst _ ih =>
      rcases List.mem_cons.mp hx with rfl | hx
      · exact ⟨_, hfirst⟩
      · exact ih hx

/-- Going through a list with something that may fail only fails at one of its items. -/
lemma exists_of_mapM_error {f : α → Except ε β} {xs : List α} {e : ε}
    (h : xs.mapM f = .error e) : ∃ x ∈ xs, f x = .error e := by
  induction xs with
  | nil => cases h
  | cons x xs ih =>
      rw [List.mapM_cons] at h
      cases hx : f x with
      | error e' =>
          rw [hx] at h
          cases h
          exact ⟨x, List.mem_cons_self, hx⟩
      | ok y =>
          rw [hx] at h
          cases hrest : xs.mapM f with
          | error e' =>
              rw [hrest] at h
              cases h
              obtain ⟨x', hmem, hfault⟩ := ih hrest
              exact ⟨x', List.mem_cons_of_mem _ hmem, hfault⟩
          | ok ys =>
              rw [hrest] at h
              cases h

/-- Going through a list succeeds if every item does. -/
lemma exists_mapM {f : α → Except ε β} {xs : List α} (h : ∀ x ∈ xs, ∃ y, f x = .ok y) :
    ∃ ys, xs.mapM f = .ok ys := by
  cases hxs : xs.mapM f with
  | ok ys => exact ⟨ys, rfl⟩
  | error e =>
      obtain ⟨x, hx, hfault⟩ := exists_of_mapM_error hxs
      obtain ⟨y, hy⟩ := h x hx
      rw [hfault] at hy
      cases hy

/-! ### Changes of a tree -/

/-- Changes of a tree with faults of any kind. -/
abbrev FileM (ε : Type) := ExceptT ε (StateM FileTree)

lemma run_bind (x : FileM ε α) (f : α → FileM ε β) (tree : FileTree) :
    (x >>= f).run.run tree =
      match x.run.run tree with
      | (.ok a, next) => (f a).run.run next
      | (.error e, next) => (.error e, next) := by
  rcases h : x.run.run tree with ⟨result, next⟩
  cases result <;> simp [ExceptT.run_bind, StateT.run_bind, h] <;> rfl

@[simp] lemma run_pure (a : α) (tree : FileTree) :
    (pure a : FileM ε α).run.run tree = (.ok a, tree) := rfl

@[simp] lemma run_get (tree : FileTree) :
    (get : FileM ε FileTree).run.run tree = (.ok tree, tree) := rfl

lemma run_adapt (f : ε → ε') (x : FileM ε α) (tree : FileTree) :
    (ExceptT.adapt f x).run.run tree = ((x.run.run tree).1.mapError f, (x.run.run tree).2) := rfl

lemma run_map (f : α → β) (x : FileM ε α) (tree : FileTree) :
    (f <$> x).run.run tree = ((x.run.run tree).1.map f, (x.run.run tree).2) := by
  rcases h : x.run.run tree with ⟨result, next⟩
  cases result <;> simp [ExceptT.run_map, StateT.run_map, h] <;> rfl

/-- Where each of two steps leaves a tree that stands in some relation to the one before, so do both
together, whether they succeed or not. -/
lemma run_bind_snd {R : FileTree → FileTree → Prop}
    (htrans : ∀ {first second third}, R first second → R second third → R first third)
    {x : FileM ε α} {f : α → FileM ε β} (hx : ∀ tree, R tree (x.run.run tree).2)
    (hf : ∀ a tree, R tree ((f a).run.run tree).2) (tree : FileTree) :
    R tree ((x >>= f).run.run tree).2 := by
  have hfirst := hx tree
  rw [run_bind]
  rcases hrun : x.run.run tree with ⟨result, next⟩
  rw [hrun] at hfirst
  cases result with
  | error e => exact hfirst
  | ok a => exact htrans hfirst (hf a next)

/-- A step that succeeds, taken apart. -/
lemma run_bind_eq_ok {x : FileM ε α} {f : α → FileM ε β} {tree after : FileTree} {b : β}
    (h : (x >>= f).run.run tree = (.ok b, after)) :
    ∃ a next, x.run.run tree = (.ok a, next) ∧ (f a).run.run next = (.ok b, after) := by
  rw [run_bind] at h
  rcases hx : x.run.run tree with ⟨result, next⟩
  rw [hx] at h
  cases result with
  | error e => cases h
  | ok a => exact ⟨a, next, rfl, h⟩

end SourceLayers
