/-
The sweep, one offset at a time:

* `better`, `winner?_eq_foldl`: the contest for an offset, candidate by candidate;
* `getElem?_sweep`: the cell of an offset after the sweep is that of the winner;
* `winner?_maximal`, `exists_winner?`: the winner covers the offset and no candidate there has a
  higher priority, and where a candidate of positive priority covers the offset there is a winner;
* `getElem?_claims`: the layer that the sweep leaves on an offset.
-/
import Mathlib.Tactic
import SourceLayers.Region.Resolve

namespace SourceLayers

variable {candidates : List Candidate} {p : Nat}

/-! ### The contest for an offset -/

/-- The better of the best candidate so far and a new one, which must be of strictly higher
priority. -/
def better (best : Option Candidate) (c : Candidate) : Option Candidate :=
  match best with
  | none => some c
  | some b => if b.priority < c.priority then some c else some b

/-- The candidates that may win an offset. -/
def contenders (candidates : List Candidate) (p : Nat) : List Candidate :=
  candidates.filter fun c => decide (c.Covers p ∧ 0 < c.priority)

lemma winner?_eq_foldl (candidates : List Candidate) (p : Nat) :
    winner? candidates p = (contenders candidates p).foldl better none := rfl

lemma mem_contenders {c : Candidate} :
    c ∈ contenders candidates p ↔ c ∈ candidates ∧ c.Covers p ∧ 0 < c.priority := by
  simp [contenders]

/-- One round of the contest leaves somebody, who is at least as good as both. -/
lemma exists_better (best : Option Candidate) (c : Candidate) :
    ∃ a, better best c = some a ∧ (best = some a ∨ a = c) ∧
      c.priority ≤ a.priority ∧ ∀ b, best = some b → b.priority ≤ a.priority := by
  cases best with
  | none => exact ⟨c, rfl, Or.inr rfl, le_rfl, by simp⟩
  | some b =>
      by_cases hlt : b.priority < c.priority
      · refine ⟨c, by simp [better, hlt], Or.inr rfl, le_rfl, fun b' hb' => ?_⟩
        cases hb'
        exact hlt.le
      · refine ⟨b, by simp [better, hlt], Or.inl rfl, not_lt.mp hlt, fun b' hb' => ?_⟩
        cases hb'
        exact le_rfl

/-- The invariant of the contest: the best so far is one of the candidates met, and none of them
has a higher priority. -/
lemma foldl_better_spec (cs : List Candidate) (best : Option Candidate) :
    (∀ w, cs.foldl better best = some w →
      (best = some w ∨ w ∈ cs) ∧ (∀ b, best = some b → b.priority ≤ w.priority) ∧
        ∀ c ∈ cs, c.priority ≤ w.priority) ∧
    (cs.foldl better best = none → best = none ∧ cs = []) := by
  induction cs generalizing best with
  | nil =>
      refine ⟨fun w hw => ?_, fun h => ⟨h, rfl⟩⟩
      have hbest : best = some w := hw
      refine ⟨Or.inl hbest, fun b hb => ?_, by simp⟩
      rw [hbest] at hb
      cases hb
      exact le_rfl
  | cons c cs ih =>
      obtain ⟨hsome, hnone⟩ := ih (better best c)
      obtain ⟨a, ha, horigin, hca, hba⟩ := exists_better best c
      refine ⟨fun w hw => ?_, fun h => ?_⟩
      · obtain ⟨hmem, hle, hall⟩ := hsome w hw
        have haw : a.priority ≤ w.priority := hle a ha
        refine ⟨?_, fun b hb => (hba b hb).trans haw, fun d hd => ?_⟩
        · rcases hmem with h | h
          · rw [ha] at h
            cases h
            rcases horigin with h' | rfl
            · exact Or.inl h'
            · exact Or.inr List.mem_cons_self
          · exact Or.inr (List.mem_cons_of_mem c h)
        · rcases List.mem_cons.mp hd with rfl | hd'
          · exact hca.trans haw
          · exact hall d hd'
      · have hfirst := (hnone h).1
        rw [ha] at hfirst
        exact absurd hfirst (by simp)

/-- The winner covers the offset with a positive priority, and no candidate there has a higher
one. -/
lemma winner?_maximal {w : Candidate} (h : winner? candidates p = some w) :
    w ∈ candidates ∧ w.Covers p ∧ 0 < w.priority ∧
      ∀ c ∈ candidates, c.Covers p → c.priority ≤ w.priority := by
  rw [winner?_eq_foldl] at h
  obtain ⟨hmem, -, hall⟩ := (foldl_better_spec _ none).1 w h
  have hw := mem_contenders.mp (hmem.resolve_left (by simp))
  refine ⟨hw.1, hw.2.1, hw.2.2, fun c hc hcover => ?_⟩
  by_cases hpos : 0 < c.priority
  · exact hall c (mem_contenders.mpr ⟨hc, hcover, hpos⟩)
  · have := hw.2.2
    omega

/-- Where a candidate of positive priority covers an offset, some candidate wins it. -/
lemma exists_winner? {c : Candidate} (hc : c ∈ candidates) (hcover : c.Covers p)
    (hpos : 0 < c.priority) : ∃ w, winner? candidates p = some w := by
  cases hw : winner? candidates p with
  | some w => exact ⟨w, rfl⟩
  | none =>
      rw [winner?_eq_foldl] at hw
      have hnil := ((foldl_better_spec _ none).2 hw).2
      have hmem : c ∈ contenders candidates p := mem_contenders.mpr ⟨hc, hcover, hpos⟩
      rw [hnil] at hmem
      exact absurd hmem (by simp)

/-! ### The cells -/

/-- The cell of an offset whose best candidate is known. -/
def Cell.ofBest : Option Candidate → Cell
  | none => {}
  | some c => { priority := c.priority, layer := some c.layer }

/-- Paints a candidate on the cell of an offset, if it covers the offset. -/
def Cell.paintAt (p : Nat) (cell : Cell) (c : Candidate) : Cell :=
  if c.Covers p then cell.paint c else cell

/-- Painting one candidate after the other changes each cell for itself. -/
lemma getElem?_foldl_paint (candidates : List Candidate) (cells : Array Cell) (p : Nat) :
    (candidates.foldl (fun cells c => paint c cells) cells)[p]? =
      cells[p]?.map fun cell => candidates.foldl (Cell.paintAt p) cell := by
  induction candidates generalizing cells with
  | nil => simp
  | cons c rest ih =>
      rw [List.foldl_cons, ih, getElem?_paint]
      by_cases hc : c.Covers p
      · simp [Cell.paintAt, hc, Function.comp_def]
      · simp [Cell.paintAt, hc]

/-- A candidate that takes part in the contest changes the cell as it changes the best one. -/
lemma Cell.paint_ofBest (best : Option Candidate) {c : Candidate} (hpos : 0 < c.priority) :
    (Cell.ofBest best).paint c = Cell.ofBest (better best c) := by
  cases best with
  | none => simp [Cell.ofBest, Cell.paint, better, hpos]
  | some b =>
      by_cases hlt : b.priority < c.priority
      · simp [Cell.ofBest, Cell.paint, better, hlt]
      · simp [Cell.ofBest, Cell.paint, better, hlt]

/-- Painting a cell and the contest for its offset go on in step. A candidate without positive
priority changes neither. -/
lemma foldl_paintAt_ofBest (candidates : List Candidate) (p : Nat) (best : Option Candidate)
    (hbest : ∀ b, best = some b → 0 < b.priority) :
    candidates.foldl (Cell.paintAt p) (Cell.ofBest best) =
      Cell.ofBest ((contenders candidates p).foldl better best) := by
  induction candidates generalizing best with
  | nil => rfl
  | cons c rest ih =>
      rw [List.foldl_cons]
      by_cases hc : c.Covers p ∧ 0 < c.priority
      · have hcons : contenders (c :: rest) p = c :: contenders rest p := by
          simp [contenders, hc]
        rw [hcons, List.foldl_cons, ← ih, ← Cell.paint_ofBest best hc.2]
        · simp [Cell.paintAt, hc.1]
        · intro b hb
          have hspec := (foldl_better_spec [c] best).1 b hb
          have := hspec.2.2 c (by simp)
          omega
      · have hcons : contenders (c :: rest) p = contenders rest p := by
          simp only [contenders, List.filter_cons, hc, decide_false, Bool.false_eq_true, if_false]
        have hsame : Cell.paintAt p (Cell.ofBest best) c = Cell.ofBest best := by
          by_cases hcover : c.Covers p
          · have hle : ¬ (Cell.ofBest best).priority < c.priority := by
              have hnonneg : 0 ≤ (Cell.ofBest best).priority := by
                cases best with
                | none => simp [Cell.ofBest]
                | some b => exact (hbest b rfl).le
              have : ¬ 0 < c.priority := fun h => hc ⟨hcover, h⟩
              omega
            simp [Cell.paintAt, Cell.paint, hcover, hle]
          · simp [Cell.paintAt, hcover]
        rw [hcons, hsame, ih best hbest]

/-- No candidate ends after the extent. -/
lemma stop_le_extent {c : Candidate} (hc : c ∈ candidates) : c.stop ≤ extent candidates := by
  have key : ∀ (cs : List Candidate) (last : Nat),
      last ≤ cs.foldl (fun last c => max last c.stop) last ∧
        ∀ c ∈ cs, c.stop ≤ cs.foldl (fun last c => max last c.stop) last := by
    intro cs
    induction cs with
    | nil => simp
    | cons d rest ih =>
        intro last
        obtain ⟨hlast, hall⟩ := ih (max last d.stop)
        rw [List.foldl_cons]
        refine ⟨(le_max_left _ _).trans hlast, fun e he => ?_⟩
        rcases List.mem_cons.mp he with rfl | he'
        · exact (le_max_right _ _).trans hlast
        · exact hall e he'
  exact (key candidates 0).2 c hc

/-- After the sweep the cell of an offset is that of the winner. -/
lemma getElem?_sweep (candidates : List Candidate) (n p : Nat) :
    (sweep candidates n)[p]? =
      if p < min n (extent candidates) then some (Cell.ofBest (winner? candidates p))
      else none := by
  rw [sweep, getElem?_foldl_paint, Array.getElem?_replicate]
  by_cases hp : p < min n (extent candidates)
  · rw [if_pos hp, if_pos hp, Option.map_some, winner?_eq_foldl,
      ← foldl_paintAt_ofBest candidates p none (by simp)]
    rfl
  · rw [if_neg hp, if_neg hp, Option.map_none]

/-- The layer that the sweep leaves on an offset is the layer of the winner. Beyond the extent
there is no cell, and no winner either. -/
lemma getElem?_claims (candidates : List Candidate) (n p : Nat) (layer : Layer) :
    ((sweep candidates n).toList.map Cell.layer)[p]? = some (some layer) ↔
      p < n ∧ (winner? candidates p).map Candidate.layer = some layer := by
  rw [List.getElem?_map, Array.getElem?_toList, getElem?_sweep]
  constructor
  · intro h
    by_cases hp : p < min n (extent candidates)
    · rw [if_pos hp, Option.map_some] at h
      refine ⟨by omega, ?_⟩
      cases hw : winner? candidates p with
      | none => simp [hw, Cell.ofBest] at h
      | some w => simpa [hw, Cell.ofBest] using h
    · simp [hp] at h
  · rintro ⟨hn, h⟩
    obtain ⟨w, hw, hlayer⟩ := Option.map_eq_some_iff.mp h
    obtain ⟨hmem, hcover, -, -⟩ := winner?_maximal hw
    have hstop := stop_le_extent hmem
    have hp : p < min n (extent candidates) := lt_min hn (hcover.2.trans_le hstop)
    rw [if_pos hp, hw]
    simp [Cell.ofBest, hlayer]

end SourceLayers
