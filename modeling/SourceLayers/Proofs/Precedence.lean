/-
Which layer an offset gets from standard candidates:

* `IsTop`: a layer is claimed on an offset, and no layer of a higher priority is;
* `isTop_congr`, `isTop_react_iff`: only the candidates on an offset decide, and the library is on
  top wherever it is claimed;
* `winner?_layer_eq_some_iff`: of standard candidates the winner has the top layer, so neither their
  order nor how often one is emitted matters;
* `hasLayer_resolve_iff`, `layerAtLinear_resolve_eq_some_iff`: the same for the partition of a text.
-/
import Mathlib.Tactic
import SourceLayers.Proofs.Emission
import SourceLayers.Proofs.Partition

namespace SourceLayers

/-- A layer is claimed on an offset, and no layer of a higher priority is. -/
def IsTop (candidates : List Candidate) (p : Nat) (layer : Layer) : Prop :=
  (∃ c ∈ candidates, c.Covers p ∧ c.layer = layer) ∧
    ∀ c ∈ candidates, c.Covers p → c.layer.priority ≤ layer.priority

variable {candidates : List Candidate} {p : Nat} {layer : Layer}

lemma Standard.priority_pos (h : Standard candidates) {c : Candidate} (hc : c ∈ candidates) :
    0 < c.priority := by
  rw [h c hc]
  cases c.layer <;> decide

/-- There is at most one top layer. -/
lemma IsTop.unique {other : Layer} (h : IsTop candidates p layer)
    (hother : IsTop candidates p other) : layer = other := by
  obtain ⟨⟨c, hc, hcover, rfl⟩, hmax⟩ := h
  obtain ⟨⟨d, hd, hdcover, rfl⟩, hothermax⟩ := hother
  exact Layer.priority_injective (le_antisymm (hothermax c hc hcover) (hmax d hd hdcover))

/-- Only the candidates on an offset decide about its top layer. -/
lemma isTop_congr {others : List Candidate}
    (h : ∀ c : Candidate, c.Covers p → (c ∈ candidates ↔ c ∈ others)) :
    IsTop candidates p layer ↔ IsTop others p layer := by
  unfold IsTop
  refine and_congr (exists_congr fun c => ?_) (forall_congr' fun c => ?_)
  · by_cases hcover : c.Covers p
    · rw [h c hcover]
    · simp [hcover]
  · by_cases hcover : c.Covers p
    · rw [h c hcover]
    · simp [hcover]

/-- The library is on top wherever it is claimed. -/
lemma isTop_react_iff :
    IsTop candidates p .react ↔ ∃ c ∈ candidates, c.Covers p ∧ c.layer = .react := by
  refine ⟨fun h => h.1, fun h => ⟨h, fun c _ _ => ?_⟩⟩
  cases c.layer <;> decide

/-- Of standard candidates the winner has the top layer. -/
lemma winner?_layer_eq_some_iff (h : Standard candidates) :
    (winner? candidates p).map Candidate.layer = some layer ↔ IsTop candidates p layer := by
  have hwinner : ∀ w, winner? candidates p = some w → IsTop candidates p w.layer := by
    intro w hw
    obtain ⟨hmem, hcover, -, hmax⟩ := winner?_maximal hw
    refine ⟨⟨w, hmem, hcover, rfl⟩, fun c hc hccover => ?_⟩
    have hle := hmax c hc hccover
    rw [h c hc, h w hmem] at hle
    exact_mod_cast hle
  constructor
  · intro hlayer
    obtain ⟨w, hw, rfl⟩ := Option.map_eq_some_iff.mp hlayer
    exact hwinner w hw
  · intro htop
    obtain ⟨c, hc, hcover, -⟩ := htop.1
    obtain ⟨w, hw⟩ := exists_winner? hc hcover (h.priority_pos hc)
    rw [hw, Option.map_some, (hwinner w hw).unique htop]

/-- Under standard candidates an offset of the text has the top layer. -/
lemma hasLayer_resolve_iff (h : Standard candidates) {length : Int} :
    HasLayer (resolve candidates length) p layer ↔
      (p : Int) < length ∧ IsTop candidates p layer := by
  rw [hasLayer_resolve, winner?_layer_eq_some_iff h]

lemma layerAtLinear_resolve_eq_some_iff (h : Standard candidates) {length : Int} :
    layerAtLinear (resolve candidates length) p = some layer ↔
      (p : Int) < length ∧ IsTop candidates p layer := by
  rw [layerAtLinear_eq_some_iff (isPartition_resolve candidates length).chain,
    hasLayer_resolve_iff h]

end SourceLayers
