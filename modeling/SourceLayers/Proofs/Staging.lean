/-
Resolving in stages:

* `Region.reclaim?`, `mapM_reclaim?`: a region as a candidate of its layer again, which there always
  is;
* `isTop_append_iff`: the top layer of two lists together is the higher one of their top layers;
* `isTop_map_candidate`: of regions in order the top layer of an offset is the layer it has;
* `resolve_of_isPartition`: a list in canonical form comes back as it was.

Main statement: `resolve_staged`, that candidates may be resolved in parts, and the regions of the
parts together.
-/
import Mathlib.Tactic
import SourceLayers.Proofs.Precedence

namespace SourceLayers

/-! ### Regions as candidates -/

/-- A region turned back into a candidate: its bounds claimed for its layer. -/
def Region.reclaim? (region : Region) : Option Candidate :=
  Candidate.make? region.start region.stop region.layer

/-- The candidate with the span and the layer of a region, at the priority of the layer. -/
def Region.candidate (region : Region) : Candidate :=
  { toSpan := region.toSpan, layer := region.layer, priority := region.layer.priority }

variable {regions : List Region} {candidates xs ys : List Candidate} {p : Nat} {layer : Layer}

/-- No region is empty, so each one is a candidate again. -/
lemma mapM_reclaim? (regions : List Region) :
    regions.mapM Region.reclaim? = some (regions.map Region.candidate) := by
  have heach : Region.reclaim? = fun region => pure region.candidate := by
    funext region
    have hbounds : (0 : Int) ≤ region.start ∧ (region.start : Int) < region.stop :=
      ⟨Int.natCast_nonneg _, Int.ofNat_lt.mpr region.start_lt_stop⟩
    rw [Region.reclaim?, Candidate.make?, dif_pos hbounds]
    rfl
  rw [heach, List.mapM_pure]
  rfl

@[simp] lemma standard_map_candidate (regions : List Region) :
    Standard (regions.map Region.candidate) := by
  intro c hc
  obtain ⟨region, -, rfl⟩ := List.mem_map.mp hc
  rfl

/-! ### Top layers -/

/-- Regions in order give an offset one layer at most. -/
lemma HasLayer.unique {other : Layer} (h : regions.IsChain Region.MayPrecede)
    (hlayer : HasLayer regions p layer) (hother : HasLayer regions p other) : layer = other := by
  rw [← layerAtLinear_eq_some_iff h] at hlayer hother
  exact Option.some.inj (hlayer.symm.trans hother)

/-- Of regions in order the top layer of an offset is the one that it has. -/
lemma isTop_map_candidate (h : regions.IsChain Region.MayPrecede) :
    IsTop (regions.map Region.candidate) p layer ↔ HasLayer regions p layer := by
  constructor
  · rintro ⟨⟨c, hc, hcover, rfl⟩, -⟩
    obtain ⟨region, hregion, rfl⟩ := List.mem_map.mp hc
    exact ⟨region, hregion, hcover, rfl⟩
  · rintro ⟨region, hregion, hcover, rfl⟩
    refine ⟨⟨region.candidate, List.mem_map_of_mem hregion, hcover, rfl⟩, fun c hc hccover => ?_⟩
    obtain ⟨other, hother, rfl⟩ := List.mem_map.mp hc
    have hsame : other.layer = region.layer :=
      HasLayer.unique h ⟨other, hother, hccover, rfl⟩ ⟨region, hregion, hcover, rfl⟩
    exact (congrArg Layer.priority hsame).le

/-- No candidate on an offset is above a bound if the top layer is not. -/
lemma forall_priority_le_iff (h : Standard candidates) {bound : Nat} :
    (∀ c ∈ candidates, c.Covers p → c.layer.priority ≤ bound) ↔
      ∀ top, IsTop candidates p top → top.priority ≤ bound := by
  constructor
  · rintro hall top ⟨⟨c, hc, hcover, rfl⟩, -⟩
    exact hall c hc hcover
  · intro htop c hc hcover
    obtain ⟨w, hw⟩ := exists_winner? hc hcover (h.priority_pos hc)
    have hwtop : IsTop candidates p w.layer :=
      (winner?_layer_eq_some_iff h).mp (by rw [hw, Option.map_some])
    calc c.layer.priority ≤ w.layer.priority := hwtop.2 c hc hcover
      _ ≤ bound := htop w.layer hwtop

/-- The top layer of two lists together is the top layer of one of them, and not below that of the
other. -/
lemma isTop_append_iff (hx : Standard xs) (hy : Standard ys) :
    IsTop (xs ++ ys) p layer ↔
      (IsTop xs p layer ∨ IsTop ys p layer) ∧
        (∀ top, IsTop xs p top → top.priority ≤ layer.priority) ∧
        ∀ top, IsTop ys p top → top.priority ≤ layer.priority := by
  rw [← forall_priority_le_iff hx, ← forall_priority_le_iff hy]
  constructor
  · rintro ⟨⟨c, hc, hclaim⟩, hmax⟩
    have hmaxx : ∀ c ∈ xs, c.Covers p → c.layer.priority ≤ layer.priority :=
      fun d hd => hmax d (List.mem_append_left ys hd)
    have hmaxy : ∀ c ∈ ys, c.Covers p → c.layer.priority ≤ layer.priority :=
      fun d hd => hmax d (List.mem_append_right xs hd)
    refine ⟨?_, hmaxx, hmaxy⟩
    rcases List.mem_append.mp hc with hc' | hc'
    · exact Or.inl ⟨⟨c, hc', hclaim⟩, hmaxx⟩
    · exact Or.inr ⟨⟨c, hc', hclaim⟩, hmaxy⟩
  · rintro ⟨htop, hmaxx, hmaxy⟩
    refine ⟨?_, fun c hc => (List.mem_append.mp hc).elim (hmaxx c) (hmaxy c)⟩
    rcases htop with ⟨⟨c, hc, hclaim⟩, -⟩ | ⟨⟨c, hc, hclaim⟩, -⟩
    · exact ⟨c, List.mem_append_left ys hc, hclaim⟩
    · exact ⟨c, List.mem_append_right xs hc, hclaim⟩

/-! ### Stage by stage -/

/-- Within the text the regions of candidates have the same top layers as the candidates. -/
lemma isTop_candidates_resolve (h : Standard candidates) {length : Int} :
    IsTop ((resolve candidates length).map Region.candidate) p layer ↔
      (p : Int) < length ∧ IsTop candidates p layer := by
  rw [isTop_map_candidate (isPartition_resolve candidates length).chain, hasLayer_resolve_iff h]

/-- A list in canonical form is its own partition. -/
lemma resolve_of_isPartition {length : Int} (h : IsPartition length regions) :
    resolve (regions.map Region.candidate) length = regions := by
  refine eq_of_hasLayer_iff (isPartition_resolve _ _).chain h.chain fun p layer => ?_
  rw [hasLayer_resolve_iff (standard_map_candidate regions), isTop_map_candidate h.chain]
  refine and_iff_right_of_imp ?_
  rintro ⟨region, hregion, hcover, -⟩
  have hstop := (h.within region hregion).2
  have hlt := hcover.2
  omega

/-- **Resolving in stages**: the regions of two lists of standard candidates are candidates again,
and resolved together they give the regions of the two lists together. Regions that are in canonical
form already, such as those of one list alone, are not changed. -/
theorem resolve_staged (length : Int) (cs ds : List Candidate) (hcs : Standard cs)
    (hds : Standard ds) :
    ∃ cs' ds', (resolve cs length).mapM Region.reclaim? = some cs' ∧
      (resolve ds length).mapM Region.reclaim? = some ds' ∧
      resolve (cs' ++ ds') length = resolve (cs ++ ds) length ∧
      resolve cs' length = resolve cs length ∧
      ∀ regions, IsPartition length regions →
        ∃ xs, regions.mapM Region.reclaim? = some xs ∧ resolve xs length = regions := by
  refine ⟨_, _, mapM_reclaim? _, mapM_reclaim? _, ?_,
    resolve_of_isPartition (isPartition_resolve cs length),
    fun regions h => ⟨_, mapM_reclaim? regions, resolve_of_isPartition h⟩⟩
  refine eq_of_hasLayer_iff (isPartition_resolve _ _).chain (isPartition_resolve _ _).chain
    fun p layer => ?_
  rw [hasLayer_resolve_iff (standard_append.mpr ⟨hcs, hds⟩),
    hasLayer_resolve_iff (standard_append.mpr ⟨standard_map_candidate _, standard_map_candidate _⟩)]
  -- what the stages may lose lies beyond the text
  refine and_congr_right fun hp => ?_
  rw [isTop_append_iff (standard_map_candidate _) (standard_map_candidate _),
    isTop_append_iff hcs hds]
  simp only [isTop_candidates_resolve hcs, isTop_candidates_resolve hds, hp, true_and]

/-- The base language past the end of a text of six characters, and types in the middle of it. -/
def typedCandidates : List Candidate :=
  claim 0 9 .javascript ++ claim 2 4 .typescript

/-- Markup that is partly under the types, and a name of the library. -/
def markedCandidates : List Candidate :=
  claim 1 3 .jsx ++ claim 5 7 .react

/-- Neither part is what it resolves to, and still their resolutions can stand for them. -/
theorem resolve_staged_typed :
    Standard typedCandidates ∧ Standard markedCandidates ∧
      ∃ cs' ds', (resolve typedCandidates 6).mapM Region.reclaim? = some cs' ∧
        (resolve markedCandidates 6).mapM Region.reclaim? = some ds' ∧
        cs' ≠ typedCandidates ∧ ds' ≠ markedCandidates ∧
        resolve (cs' ++ ds') 6 = resolve (typedCandidates ++ markedCandidates) 6 ∧
        resolve cs' 6 = resolve typedCandidates 6 := by
  have htyped : Standard typedCandidates := by simp [typedCandidates]
  have hmarked : Standard markedCandidates := by simp [markedCandidates]
  obtain ⟨cs', ds', hcs, hds, happend, hagain, -⟩ :=
    resolve_staged 6 typedCandidates markedCandidates htyped hmarked
  refine ⟨htyped, hmarked, cs', ds', hcs, hds, ?_, ?_, happend, hagain⟩
  · rintro rfl
    exact absurd hcs (by decide)
  · rintro rfl
    exact absurd hds (by decide)

end SourceLayers
