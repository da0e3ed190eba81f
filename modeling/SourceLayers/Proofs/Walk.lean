/-
Whole walks:

* `Reading.Walks`: the course of a walk, step by step. It is what the walk computes
  (`walk_eq_ok_iff`), and every fact about walks is an induction on it;
* `Walks.mem_visited`: whatever is on the stack is visited;
* `Walks.step_of_visited`: the step at a visited site is part of the walk;
* `Walks.exists_visited_of_content`: a step that visits all content leads to each child of it;
* `Walks.standard_emitted`: a walk emits standard candidates;
* `exists_walk`: a walk over trees whose nodes end within the text comes to its end;
* `Reading.walkWithin`: a walk of at most so many steps. It recurses on their number, so that the
  walk over a tree that is written out can be evaluated.
-/
import Mathlib.Tactic
import SourceLayers.Proofs.Emission
import SourceLayers.Proofs.Tree

namespace SourceLayers

namespace Reading

/-- The course of a walk: at each site of the stack the step that is taken there, and then the walk
over what the step goes on to and the rest of the stack. -/
inductive Walks (reading : Reading) : NameSet → List Site → Trace → Prop where
  | done (enums : NameSet) : Walks reading enums [] { enums }
  | step {enums : NameSet} {site : Site} {stack : List Site} {step : Step} {rest : Trace} :
      reading.visit enums site = .ok step →
      Walks reading (enums.insertAll step.declared) (site.descend step.fates ++ stack) rest →
      Walks reading enums (site :: stack)
        { visited := site :: rest.visited
          emitted := step.emitted ++ rest.emitted
          enums := rest.enums }

variable {reading : Reading} {enums : NameSet} {stack : List Site} {trace : Trace}

/-- A walk computes its course. -/
lemma walk_eq_ok_iff : reading.walk enums stack = .ok trace ↔ reading.Walks enums stack trace := by
  constructor
  · intro h
    rw [Reading.walk] at h
    fun_induction walkBy reading.visit enums stack generalizing trace with
    | case1 enums =>
        cases h
        exact Walks.done enums
    | case2 => cases h
    | case3 => cases h
    | case4 enums site stack step hstep rest hrest ih =>
        cases h
        exact Walks.step hstep (ih hrest)
  · intro h
    induction h with
    | done enums => rw [Reading.walk, walkBy]
    | step hstep _ ih =>
        rw [Reading.walk] at ih ⊢
        rw [walkBy, hstep]
        simp only [ih]

namespace Walks

/-- Whatever is on the stack is visited. -/
lemma mem_visited (h : reading.Walks enums stack trace) : ∀ site ∈ stack, site ∈ trace.visited := by
  induction h with
  | done => simp
  | step _ _ ih =>
      intro site hsite
      rcases List.mem_cons.mp hsite with rfl | hrest
      · exact List.mem_cons_self
      · exact List.mem_cons_of_mem _ (ih site (List.mem_append_right _ hrest))

/-- The step at a visited site is part of the walk: its candidates are emitted, and what it goes on
to is visited. -/
lemma step_of_visited (h : reading.Walks enums stack trace) {site : Site}
    (hsite : site ∈ trace.visited) :
    ∃ known step, reading.visit known site = .ok step ∧
      (∀ c ∈ step.emitted, c ∈ trace.emitted) ∧
      ∀ next ∈ site.descend step.fates, next ∈ trace.visited := by
  induction h with
  | done => simp at hsite
  | @step enums first stack step rest hstep hwalk ih =>
      rcases List.mem_cons.mp hsite with rfl | hrest
      · refine ⟨enums, step, hstep, fun c hc => List.mem_append_left _ hc, fun next hnext => ?_⟩
        exact List.mem_cons_of_mem _ (hwalk.mem_visited next (List.mem_append_left _ hnext))
      · obtain ⟨known, later, hlater, hemitted, hnext⟩ := ih hrest
        exact ⟨known, later, hlater, fun c hc => List.mem_append_right _ (hemitted c hc),
          fun next h => List.mem_cons_of_mem _ (hnext next h)⟩

/-- Where the step visits all content, each content child is visited in its place. -/
lemma exists_visited_of_content (h : reading.Walks enums stack trace) {site : Site}
    (hsite : site ∈ trace.visited)
    (henter : ∀ known step, reading.visit known site = .ok step →
      step.fates = Step.enterAll site.node)
    {child : Node} (hchild : child ∈ site.node.content) :
    ∃ below ∈ trace.visited, below.node = child ∧ below.parent = some site.node := by
  obtain ⟨known, step, hvisit, -, hnext⟩ := h.step_of_visited hsite
  obtain ⟨below, hbelow, hnode⟩ := Site.exists_mem_content hchild
  refine ⟨below, hnext below ?_, hnode, Site.parent_of_mem_content hbelow⟩
  rwa [henter known step hvisit, Site.descend_enterAll]

/-- A walk emits standard candidates. -/
lemma standard_emitted (h : reading.Walks enums stack trace) : Standard trace.emitted := by
  induction h with
  | done => simp
  | step hstep _ ih => exact standard_append.mpr ⟨standard_visit hstep, ih⟩

end Walks

/-- A walk over trees whose nodes end within the text comes to its end without a fault. -/
lemma exists_walk (enums : NameSet) (stack : List Site)
    (h : ∀ site ∈ stack, site.node.Everywhere fun node => node.stop ≤ reading.text.length) :
    ∃ trace, reading.walk enums stack = .ok trace := by
  rw [Reading.walk]
  fun_induction walkBy reading.visit enums stack with
  | case1 => exact ⟨_, rfl⟩
  | case2 enums site stack fault hfault =>
      obtain ⟨step, hstep⟩ := exists_visit enums (h site List.mem_cons_self).self
      rw [hstep] at hfault
      cases hfault
  | case3 enums site stack step hstep fault hfault ih =>
      -- what the step goes on to lies in the tree of the site
      have hstack : ∀ next ∈ site.descend step.fates ++ stack,
          next.node.Everywhere fun node => node.stop ≤ reading.text.length := by
        intro next hnext
        rcases List.mem_append.mp hnext with hbelow | hrest
        · exact (h site List.mem_cons_self).of_mem_descend hbelow
        · exact h next (List.mem_cons_of_mem _ hrest)
      obtain ⟨trace, htrace⟩ := ih hstack
      rw [htrace] at hfault
      cases hfault
  | case4 => exact ⟨_, rfl⟩

/-! ### Walks that are evaluated -/

/-- The walk over a stack, if it comes to its end within `bound` steps and without a fault. -/
def walkWithin (reading : Reading) : (bound : Nat) → NameSet → List Site → Option Trace
  | _, enums, [] => some { enums }
  | 0, _, _ :: _ => none
  | bound + 1, enums, site :: stack =>
    match reading.visit enums site with
    | .error _ => none
    | .ok step =>
      (walkWithin reading bound (enums.insertAll step.declared)
        (site.descend step.fates ++ stack)).map fun rest =>
          { visited := site :: rest.visited
            emitted := step.emitted ++ rest.emitted
            enums := rest.enums }

/-- A walk that ends within its bound is the walk. -/
lemma walks_of_walkWithin {bound : Nat} (h : reading.walkWithin bound enums stack = some trace) :
    reading.Walks enums stack trace := by
  induction bound generalizing enums stack trace with
  | zero =>
      cases stack with
      | nil =>
          cases h
          exact Walks.done enums
      | cons => cases h
  | succ bound ih =>
      cases stack with
      | nil =>
          cases h
          exact Walks.done enums
      | cons site stack =>
          rw [walkWithin] at h
          cases hvisit : reading.visit enums site with
          | error fault =>
              rw [hvisit] at h
              cases h
          | ok step =>
              rw [hvisit] at h
              obtain ⟨rest, hrest, rfl⟩ := Option.map_eq_some_iff.mp h
              exact Walks.step hvisit (ih hrest)

/-- What is found of the walk within a bound holds of the walk. -/
lemma exists_walk_of_walkWithin {bound : Nat} {P : Trace → Prop}
    (h : ∃ trace ∈ reading.walkWithin bound enums stack, P trace) :
    ∃ trace, reading.walk enums stack = .ok trace ∧ P trace := by
  obtain ⟨trace, htrace, hfound⟩ := h
  exact ⟨trace, walk_eq_ok_iff.mpr (walks_of_walkWithin htrace), hfound⟩

end Reading

end SourceLayers
