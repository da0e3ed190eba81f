/-
Looking an offset up:

* `regionStarts`: the starts of the regions, which are sorted where the regions precede each other
  (`pairwise_regionStarts`);
* `countLessEq_regionStarts`: the halving search counts the regions up to the one around an
  integer, that one included;
* `layerAt_of_contains`, `exists_of_layerAt`: so the search finds the layer of that region, and
  whatever it finds is the layer of such a region;
* `sweptLayer?`: what the sweep left on an integer.

Main statement: `layerAt_lookup`, that on sorted regions the halving search finds what a look at
every region does, and on the partition of a text what the sweep left.
-/
import Mathlib.Tactic
import SourceLayers.Proofs.Foremost
import SourceLayers.Proofs.Search

namespace SourceLayers

/-! ### The starts of the regions -/

variable {regions : List Region} {p : Int}

/-- The starts of the regions, as the search reads them. -/
def regionStarts (regions : List Region) : Array Int :=
  (regions.map fun region => (region.start : Int)).toArray

@[simp] lemma size_regionStarts (regions : List Region) :
    (regionStarts regions).size = regions.length := by
  simp [regionStarts]

lemma getD_regionStarts {i : Nat} (hi : i < regions.length) :
    (regionStarts regions).getD i 0 = regions[i].start := by
  simp [regionStarts, Array.getD, hi]

/-- Regions that precede each other have sorted starts. -/
lemma pairwise_regionStarts (h : regions.Pairwise Region.Precedes) :
    (regionStarts regions).toList.Pairwise (· ≤ ·) := by
  rw [regionStarts, List.pairwise_map]
  refine h.imp fun {left right} hprecedes => ?_
  have hle : left.start ≤ right.start := left.start_lt_stop.le.trans hprecedes
  exact_mod_cast hle

/-! ### The search -/

/-- The search counts the regions up to the one around an integer, that one included. -/
lemma countLessEq_regionStarts (h : regions.Pairwise Region.Precedes) {i : Nat}
    (hi : i < regions.length) (hcontains : regions[i].Contains p) :
    countLessEq (regionStarts regions) p = i + 1 := by
  obtain ⟨hsize, hbefore, hafter⟩ := countLessEq_spec (pairwise_regionStarts h) p
  rw [size_regionStarts] at hsize hafter
  -- the region itself begins no later than the integer
  have hcounted : i < countLessEq (regionStarts regions) p := by
    by_contra hnot
    have hlater := hafter i (by omega) hi
    rw [getD_regionStarts hi] at hlater
    exact absurd hcontains.1 (not_le.mpr hlater)
  -- and the one after it begins past the integer
  by_contra hne
  have hnext : i + 1 < countLessEq (regionStarts regions) p := by omega
  have hlength : i + 1 < regions.length := by omega
  have hstart := hbefore (i + 1) hnext
  rw [getD_regionStarts hlength] at hstart
  have hprecedes : regions[i].stop ≤ regions[i + 1].start :=
    List.pairwise_iff_getElem.mp h i (i + 1) hi hlength (Nat.lt_succ_self i)
  have hlast := hcontains.2
  omega

/-- On sorted regions the search finds the region around an integer. -/
lemma layerAt_of_contains (h : regions.Pairwise Region.Precedes) {region : Region}
    (hmem : region ∈ regions) (hcontains : region.Contains p) :
    layerAt regions p = some region.layer := by
  obtain ⟨i, hi, rfl⟩ := List.mem_iff_getElem.mp hmem
  have hcount := countLessEq_regionStarts h hi hcontains
  rw [regionStarts] at hcount
  have hbounds : (regions[i].start : Int) ≤ p ∧ p < regions[i].stop := hcontains
  rw [layerAt, hcount]
  simp only [List.getElem?_eq_getElem hi, if_pos hbounds]

/-- Whatever the search finds is the layer of a region around the integer, on any regions. -/
lemma exists_of_layerAt {layer : Layer} (h : layerAt regions p = some layer) :
    ∃ region ∈ regions, region.Contains p ∧ region.layer = layer := by
  rw [layerAt] at h
  split at h
  · cases h
  · split at h
    · rename_i region hregion
      split at h
      · rename_i hcontains
        exact ⟨region, List.mem_of_getElem? hregion, hcontains, Option.some.inj h⟩
      · cases h
    · cases h

/-- On sorted regions a look at every region finds the one around an integer. -/
lemma layerAtLinear_of_contains (h : regions.Pairwise Region.Precedes) {region : Region}
    (hmem : region ∈ regions) (hcontains : region.Contains p) :
    layerAtLinear regions p = some region.layer := by
  have hfound : regions.find? (fun r => decide (r.Contains p)) = some region := by
    rw [← List.head?_filter, filter_contains_of_pairwise h hmem hcontains, List.head?_cons]
  exact congrArg (Option.map Region.layer) hfound

/-! ### The sweep -/

/-- The layer that the sweep left on an integer. Outside of the text it left nothing. -/
def sweptLayer? (candidates : List Candidate) (length p : Int) : Option Layer :=
  if 0 ≤ p then (sweep candidates length.toNat)[p.toNat]?.bind Cell.layer else none

/-- The regions of a text hold the layers that the sweep left. -/
lemma exists_region_iff_swept {candidates : List Candidate} {length : Int} {layer : Layer} :
    (∃ region ∈ resolve candidates length, region.Contains p ∧ region.layer = layer) ↔
      sweptLayer? candidates length p = some layer := by
  rw [sweptLayer?]
  split_ifs with hp
  · lift p to ℕ using hp
    have hlayer := hasLayer_mergeRuns ((sweep candidates length.toNat).toList.map Cell.layer) 0 p
      layer
    simp only [Span.contains_natCast]
    rw [← HasLayer, resolve, hlayer]
    simp [Option.bind_eq_some_iff]
  · refine iff_of_false ?_ (by simp)
    rintro ⟨region, -, hcontains, -⟩
    exact hp hcontains.nonneg

lemma pairwise_resolve (candidates : List Candidate) (length : Int) :
    (resolve candidates length).Pairwise Region.Precedes :=
  pairwise_precedes ((isPartition_resolve candidates length).chain.imp fun _ _ h => h.1)

/-- **Halving finds what a look at every region finds**: on regions in increasing order that do not
overlap, whether they touch or not, the search for an integer, which may lie anywhere, finds the
layer of the one region around it, and nothing if there is none. On the partition of a text it finds
the layer that the sweep left there. -/
theorem layerAt_lookup (regions : List Region) (h : regions.IsChain Region.Precedes) (p : Int) :
    layerAt regions p = layerAtLinear regions p ∧
      (∀ layer, layerAt regions p = some layer ↔
        ∃ region, (regions.filter fun r => decide (r.Contains p)) = [region] ∧
          region.layer = layer) ∧
      (layerAt regions p = none ↔ ∀ region ∈ regions, ¬ region.Contains p) ∧
      ∀ (candidates : List Candidate) (length : Int),
        layerAt (resolve candidates length) p = sweptLayer? candidates length p := by
  have hpairwise := pairwise_precedes h
  have hnone : layerAt regions p = none ↔ ∀ region ∈ regions, ¬ region.Contains p := by
    constructor
    · intro hnone region hmem hcontains
      rw [layerAt_of_contains hpairwise hmem hcontains] at hnone
      cases hnone
    · intro hgap
      rw [Option.eq_none_iff_forall_ne_some]
      intro layer hlayer
      obtain ⟨region, hmem, hcontains, -⟩ := exists_of_layerAt hlayer
      exact hgap region hmem hcontains
  refine ⟨?_, fun layer => ⟨fun hlayer => ?_, ?_⟩, hnone, fun candidates length => ?_⟩
  · by_cases hcovered : ∃ region ∈ regions, region.Contains p
    · obtain ⟨region, hmem, hcontains⟩ := hcovered
      rw [layerAt_of_contains hpairwise hmem hcontains,
        layerAtLinear_of_contains hpairwise hmem hcontains]
    · simp only [not_exists, not_and] at hcovered
      have hlinear : regions.find? (fun r => decide (r.Contains p)) = none :=
        List.find?_eq_none.mpr fun region hmem => by simpa using hcovered region hmem
      rw [hnone.mpr hcovered]
      exact (congrArg (Option.map Region.layer) hlinear).symm
  · obtain ⟨region, hmem, hcontains, hregion⟩ := exists_of_layerAt hlayer
    exact ⟨region, filter_contains_of_pairwise hpairwise hmem hcontains, hregion⟩
  · rintro ⟨region, hfilter, rfl⟩
    have hfound : region ∈ regions.filter fun r => decide (r.Contains p) := by
      rw [hfilter]
      exact List.mem_singleton_self region
    obtain ⟨hmem, hcontains⟩ := List.mem_filter.mp hfound
    exact layerAt_of_contains hpairwise hmem (by simpa using hcontains)
  · apply Option.ext
    intro layer
    rw [← exists_region_iff_swept]
    constructor
    · exact exists_of_layerAt
    · rintro ⟨region, hmem, hcontains, rfl⟩
      exact layerAt_of_contains (pairwise_resolve candidates length) hmem hcontains

/-- A region, a gap, and two regions of one layer that touch. -/
def gappedRegions : List Region :=
  [⟨⟨2, 3, by decide⟩, .jsx⟩, ⟨⟨5, 6, by decide⟩, .react⟩, ⟨⟨6, 9, by decide⟩, .react⟩]

/-- Where two regions touch the later one is found; before the first one, in the gap and past the
end there is nothing. -/
theorem layerAt_lookup_gapped :
    gappedRegions.IsChain Region.Precedes ∧ layerAt gappedRegions 6 = some .react ∧
      (∃ region, (gappedRegions.filter fun r => decide (r.Contains 6)) = [region] ∧
        region.layer = .react) ∧
      layerAt gappedRegions (-1) = none ∧ layerAt gappedRegions 3 = none ∧
      layerAt gappedRegions 9 = none ∧
      layerAt (resolve touchingCandidates 6) 3 = some .jsx := by
  have hsorted : gappedRegions.IsChain Region.Precedes := by decide
  obtain ⟨hlinear, hlayer, -, hswept⟩ := layerAt_lookup gappedRegions hsorted 6
  have hsix : layerAt gappedRegions 6 = some .react := by
    rw [hlinear]
    rfl
  have hthree : sweptLayer? touchingCandidates 6 3 = some .jsx := by decide +kernel
  refine ⟨hsorted, hsix, (hlayer .react).mp hsix, ?_, ?_, ?_, ?_⟩
  · exact (layerAt_lookup gappedRegions hsorted (-1)).2.2.1.mpr (by decide)
  · exact (layerAt_lookup gappedRegions hsorted 3).2.2.1.mpr (by decide)
  · exact (layerAt_lookup gappedRegions hsorted 9).2.2.1.mpr (by decide)
  · rw [(layerAt_lookup gappedRegions hsorted 3).2.2.2]
    exact hthree

end SourceLayers
