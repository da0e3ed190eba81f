/-
The canonical form of a partition:

* `IsPartition`: regions within a text, in increasing order and without overlap, where regions that
  touch have different layers;
* `HasLayer`: some region gives an offset its layer. On regions in order this is what a look at
  every region finds (`layerAtLinear_eq_some_iff`);
* `eq_of_hasLayer_iff`: two lists in canonical form that agree at every offset are equal;
* `hasLayer_mergeRuns`, `isChain_mergeRuns`: merging runs keeps the layer of every offset and
  yields canonical form;
* `hasLayer_resolve`: an offset has the layer of the candidate that wins it.

Main statement: `resolve_canonical`, that the partition of a text under any candidates is the one
list in canonical form with the layers that the sweep left.
-/
import Mathlib.Tactic
import SourceLayers.Proofs.Sweep
import SourceLayers.Region.Lookup

namespace SourceLayers

variable {regions : List Region} {p : Nat} {layer : Layer}

/-! ### The form -/

/-- Whether a region may come right after another: it begins no earlier than the other ends, and
where it begins right there the layers differ. -/
def Region.MayPrecede (left right : Region) : Prop :=
  left.stop ≤ right.start ∧ (left.stop = right.start → left.layer ≠ right.layer)

instance (left right : Region) : Decidable (left.MayPrecede right) :=
  inferInstanceAs (Decidable (_ ∧ _))

/-- The canonical form of a partition of a text of `length` characters. Regions are never empty and
never begin before the text. -/
structure IsPartition (length : Int) (regions : List Region) : Prop where
  within : ∀ region ∈ regions, region.start < region.stop ∧ (region.stop : Int) ≤ length
  chain : regions.IsChain Region.MayPrecede

/-- Whether some region gives an offset this layer. -/
def HasLayer (regions : List Region) (p : Nat) (layer : Layer) : Prop :=
  ∃ region ∈ regions, region.Covers p ∧ region.layer = layer

@[simp] lemma hasLayer_nil : ¬ HasLayer [] p layer := by
  simp [HasLayer]

@[simp] lemma hasLayer_cons {region : Region} :
    HasLayer (region :: regions) p layer ↔
      region.Covers p ∧ region.layer = layer ∨ HasLayer regions p layer := by
  simp [HasLayer]

lemma Region.covers_start (region : Region) : region.Covers region.start :=
  ⟨le_rfl, region.start_lt_stop⟩

/-! ### Regions in order -/

section Chain

variable {first : Region} {rest : List Region}

/-- The first region gives its start its layer. -/
lemma hasLayer_start : HasLayer (first :: rest) first.start first.layer :=
  hasLayer_cons.mpr (Or.inl ⟨first.covers_start, rfl⟩)

/-- All regions of a list in order begin after the first one. -/
lemma stop_le_start_of_isChain (h : (first :: rest).IsChain Region.MayPrecede) :
    ∀ region ∈ rest, first.stop ≤ region.start := by
  induction rest generalizing first with
  | nil => simp
  | cons next rest ih =>
      obtain ⟨hnext, hrest⟩ := List.isChain_cons_cons.mp h
      intro region hregion
      rcases List.mem_cons.mp hregion with rfl | hregion'
      · exact hnext.1
      · have hlater := ih hrest region hregion'
        have hnonempty := next.start_lt_stop
        have hfirst := hnext.1
        omega

/-- After the first region come the layers from its end on. -/
lemma hasLayer_tail_iff (h : (first :: rest).IsChain Region.MayPrecede) :
    HasLayer rest p layer ↔ HasLayer (first :: rest) p layer ∧ first.stop ≤ p := by
  constructor
  · rintro ⟨region, hregion, hcover, hlayer⟩
    refine ⟨hasLayer_cons.mpr (Or.inr ⟨region, hregion, hcover, hlayer⟩), ?_⟩
    exact (stop_le_start_of_isChain h region hregion).trans hcover.1
  · rintro ⟨hlayer, hp⟩
    rcases hasLayer_cons.mp hlayer with ⟨hcover, -⟩ | hrest
    · exact absurd hcover.2 (not_lt.mpr hp)
    · exact hrest

/-- No offset before the first region has a layer. -/
lemma start_le_of_hasLayer (h : (first :: rest).IsChain Region.MayPrecede)
    (hp : HasLayer (first :: rest) p layer) : first.start ≤ p := by
  rcases hasLayer_cons.mp hp with ⟨hcover, -⟩ | hrest
  · exact hcover.1
  · have hstop := ((hasLayer_tail_iff h).mp hrest).2
    exact first.start_lt_stop.le.trans hstop

/-- An offset of the first region has its layer alone. -/
lemma hasLayer_iff_of_covers (h : (first :: rest).IsChain Region.MayPrecede)
    (hp : first.Covers p) : HasLayer (first :: rest) p layer ↔ first.layer = layer := by
  constructor
  · intro hlayer
    rcases hasLayer_cons.mp hlayer with ⟨-, heq⟩ | hrest
    · exact heq
    · exact absurd ((hasLayer_tail_iff h).mp hrest).2 (not_le.mpr hp.2)
  · intro heq
    exact hasLayer_cons.mpr (Or.inl ⟨hp, heq⟩)

/-- The layer of the first region ends with it. -/
lemma not_hasLayer_stop (h : (first :: rest).IsChain Region.MayPrecede) :
    ¬ HasLayer (first :: rest) first.stop first.layer := by
  intro hlayer
  rcases hasLayer_cons.mp hlayer with ⟨hcover, -⟩ | hrest
  · exact absurd hcover.2 (lt_irrefl _)
  · cases rest with
    | nil => exact hasLayer_nil hrest
    | cons next rest =>
        obtain ⟨hnext, hchain⟩ := List.isChain_cons_cons.mp h
        -- the next region can only begin right there, and then it has another layer
        have hstart : next.start = first.stop :=
          le_antisymm (start_le_of_hasLayer hchain hrest) hnext.1
        have hcover : next.Covers first.stop := hstart ▸ next.covers_start
        exact hnext.2 hstart.symm ((hasLayer_iff_of_covers hchain hcover).mp hrest).symm

/-- On regions in order, a look at every region finds the layer of an offset. -/
lemma layerAtLinear_eq_some_iff (h : regions.IsChain Region.MayPrecede) :
    layerAtLinear regions p = some layer ↔ HasLayer regions p layer := by
  induction regions with
  | nil => simp [layerAtLinear]
  | cons first rest ih =>
      by_cases hp : first.Covers p
      · have hfind : layerAtLinear (first :: rest) p = some first.layer := by
          have : first.start ≤ p ∧ p < first.stop := hp
          simp [layerAtLinear, this]
        rw [hfind, hasLayer_iff_of_covers h hp, Option.some.injEq]
      · have hskip : layerAtLinear (first :: rest) p = layerAtLinear rest p := by
          have : ¬ (first.start ≤ p ∧ p < first.stop) := hp
          simp [layerAtLinear, this]
        rw [hskip, ih h.tail, hasLayer_cons]
        simp [hp]

end Chain

/-! ### Uniqueness -/

/-- Where two lists in order begin with the same offset and layer, the first region of the one does
not end before that of the other. -/
lemma stop_le_stop {a b : Region} {as bs : List Region}
    (ha : (a :: as).IsChain Region.MayPrecede)
    (h : ∀ p layer, HasLayer (b :: bs) p layer → HasLayer (a :: as) p layer)
    (hstart : a.start = b.start) (hlayer : a.layer = b.layer) : b.stop ≤ a.stop := by
  by_contra hlt
  have hcover : b.Covers a.stop := by
    have hnonempty := a.start_lt_stop
    exact ⟨by omega, by omega⟩
  have hb : HasLayer (b :: bs) a.stop b.layer := hasLayer_cons.mpr (Or.inl ⟨hcover, rfl⟩)
  exact not_hasLayer_stop ha (hlayer ▸ h _ _ hb)

/-- Two lists in order that agree at every offset begin with the same region. -/
lemma head_eq_of_hasLayer_iff {a b : Region} {as bs : List Region}
    (ha : (a :: as).IsChain Region.MayPrecede) (hb : (b :: bs).IsChain Region.MayPrecede)
    (h : ∀ p layer, HasLayer (a :: as) p layer ↔ HasLayer (b :: bs) p layer) : a = b := by
  have hstart : a.start = b.start :=
    le_antisymm (start_le_of_hasLayer ha ((h _ _).mpr hasLayer_start))
      (start_le_of_hasLayer hb ((h _ _).mp hasLayer_start))
  have hlayer : a.layer = b.layer := by
    have hcover : b.Covers a.start := hstart ▸ b.covers_start
    exact ((hasLayer_iff_of_covers hb hcover).mp ((h _ _).mp hasLayer_start)).symm
  have hstop : a.stop = b.stop :=
    le_antisymm (stop_le_stop hb (fun p l => (h p l).mp) hstart.symm hlayer.symm)
      (stop_le_stop ha (fun p l => (h p l).mpr) hstart hlayer)
  obtain ⟨⟨start, stop, hne⟩, layer⟩ := a
  obtain ⟨⟨start', stop', hne'⟩, layer'⟩ := b
  cases hstart
  cases hstop
  cases hlayer
  rfl

/-- **Uniqueness of the canonical form**: two lists in order whose touching regions have different
layers are equal if they agree at every offset. -/
theorem eq_of_hasLayer_iff {xs ys : List Region} (hx : xs.IsChain Region.MayPrecede)
    (hy : ys.IsChain Region.MayPrecede)
    (h : ∀ p layer, HasLayer xs p layer ↔ HasLayer ys p layer) : xs = ys := by
  induction xs generalizing ys with
  | nil =>
      cases ys with
      | nil => rfl
      | cons b bs => exact absurd ((h _ _).mpr hasLayer_start) hasLayer_nil
  | cons a as ih =>
      cases ys with
      | nil => exact absurd ((h _ _).mp hasLayer_start) hasLayer_nil
      | cons b bs =>
          obtain rfl := head_eq_of_hasLayer_iff hx hy h
          have htail : ∀ p layer, HasLayer as p layer ↔ HasLayer bs p layer := by
            intro p layer
            rw [hasLayer_tail_iff hx, hasLayer_tail_iff hy, h p layer]
          have hrest : as = bs := ih hx.tail hy.tail htail
          rw [hrest]

/-! ### Merging runs -/

/-- Absorbing an offset gives it its layer and changes no other. -/
lemma hasLayer_absorb {q : Nat} {claimed : Layer} :
    HasLayer (absorb p claimed regions) q layer ↔
      q = p ∧ claimed = layer ∨ HasLayer regions q layer := by
  have hsingle : ∀ {start stop : Nat} (h : start < stop), stop = start + 1 →
      ((⟨start, stop, h⟩ : Span).Covers q ↔ q = start) := by
    intro start stop h hstop
    rw [Span.Covers]
    simp only
    omega
  cases regions with
  | nil => simp [absorb, hsingle]
  | cons next rest =>
      by_cases hnext : next.start = p + 1 ∧ next.layer = claimed
      · -- the next region grows by the offset right before it
        have hgrow : ∀ h : p < next.stop,
            ((⟨p, next.stop, h⟩ : Span).Covers q ↔ q = p ∨ next.Covers q) := by
          intro h
          have hnonempty := next.start_lt_stop
          have hstart := hnext.1
          unfold Span.Covers
          simp only
          omega
        rw [absorb, dif_pos hnext, hasLayer_cons, hasLayer_cons, hgrow, hnext.2]
        simp only [or_and_right, or_assoc]
      · rw [absorb, dif_neg hnext, hasLayer_cons, hsingle _ rfl]

/-- Absorbing an offset before regions in order leaves them in order. -/
lemma isChain_absorb (h : regions.IsChain Region.MayPrecede)
    (hafter : ∀ region ∈ regions, p + 1 ≤ region.start) :
    (absorb p layer regions).IsChain Region.MayPrecede := by
  cases regions with
  | nil => exact List.IsChain.singleton _
  | cons next rest =>
      have hstart := hafter next List.mem_cons_self
      by_cases hnext : next.start = p + 1 ∧ next.layer = layer
      · rw [absorb, dif_pos hnext]
        -- what follows depends only on the end and the layer, which stay
        refine List.IsChain.imp_head (x := next) ?_ h
        intro region hregion
        exact hregion
      · rw [absorb, dif_neg hnext]
        refine List.isChain_cons_cons.mpr ⟨⟨hstart, fun htouch => ?_⟩, h⟩
        exact fun hlayer => hnext ⟨htouch.symm, hlayer.symm⟩

/-- Merging runs keeps the layer of every offset. -/
lemma hasLayer_mergeRuns (claims : List (Option Layer)) (p q : Nat) (layer : Layer) :
    HasLayer (mergeRuns p claims) q layer ↔ p ≤ q ∧ claims[q - p]? = some (some layer) := by
  induction claims generalizing p with
  | nil => simp [mergeRuns]
  | cons claim rest ih =>
      have hshift : p + 1 ≤ q → q - p = q - (p + 1) + 1 := by omega
      cases claim with
      | none =>
          rw [mergeRuns, ih]
          constructor
          · rintro ⟨hp, hget⟩
            refine ⟨by omega, ?_⟩
            rw [hshift hp, List.getElem?_cons_succ]
            exact hget
          · rintro ⟨hp, hget⟩
            have hne : q ≠ p := by
              rintro rfl
              simp at hget
            refine ⟨by omega, ?_⟩
            rw [hshift (by omega), List.getElem?_cons_succ] at hget
            exact hget
      | some claimed =>
          rw [mergeRuns, hasLayer_absorb, ih]
          constructor
          · rintro (⟨rfl, rfl⟩ | ⟨hp, hget⟩)
            · simp
            · refine ⟨by omega, ?_⟩
              rw [hshift hp, List.getElem?_cons_succ]
              exact hget
          · rintro ⟨hp, hget⟩
            by_cases hq : q = p
            · subst hq
              left
              simpa using hget
            · right
              refine ⟨by omega, ?_⟩
              rw [hshift (by omega), List.getElem?_cons_succ] at hget
              exact hget

/-- Merging runs puts the regions in order and gives touching ones different layers. -/
lemma isChain_mergeRuns (claims : List (Option Layer)) (p : Nat) :
    (mergeRuns p claims).IsChain Region.MayPrecede := by
  induction claims generalizing p with
  | nil => exact List.IsChain.nil
  | cons claim rest ih =>
      cases claim with
      | none => exact ih (p + 1)
      | some claimed =>
          refine isChain_absorb (ih (p + 1)) fun region hregion => ?_
          have hlayer : HasLayer (mergeRuns (p + 1) rest) region.start region.layer :=
            ⟨region, hregion, region.covers_start, rfl⟩
          exact ((hasLayer_mergeRuns _ _ _ _).mp hlayer).1

/-! ### The partition of a text -/

/-- An offset has the layer of the candidate that wins it. -/
lemma hasLayer_resolve (candidates : List Candidate) (length : Int) (p : Nat) (layer : Layer) :
    HasLayer (resolve candidates length) p layer ↔
      (p : Int) < length ∧ (winner? candidates p).map Candidate.layer = some layer := by
  rw [resolve, hasLayer_mergeRuns, Nat.sub_zero, getElem?_claims]
  have hlength : p < length.toNat ↔ (p : Int) < length := by omega
  simp [hlength]

/-- The partition of a text is in canonical form. -/
lemma isPartition_resolve (candidates : List Candidate) (length : Int) :
    IsPartition length (resolve candidates length) := by
  refine ⟨fun region hregion => ⟨region.start_lt_stop, ?_⟩, isChain_mergeRuns _ _⟩
  have hnonempty := region.start_lt_stop
  have hcover : region.Covers (region.stop - 1) := ⟨by omega, by omega⟩
  have hlast := ((hasLayer_resolve candidates length _ _).mp ⟨region, hregion, hcover, rfl⟩).1
  omega

/-- Where a candidate of positive priority covers an offset of the text, a region does, and every
region there has the layer of a candidate of at least that priority. -/
lemma exists_region_of_candidate {candidates : List Candidate} {length : Int} {c : Candidate}
    (hc : c ∈ candidates) (hcover : c.Covers p) (hpos : 0 < c.priority)
    (hp : (p : Int) < length) :
    (∃ region ∈ resolve candidates length, region.Covers p) ∧
      ∀ region ∈ resolve candidates length, region.Covers p →
        ∃ w ∈ candidates, w.layer = region.layer ∧ c.priority ≤ w.priority := by
  obtain ⟨w, hw⟩ := exists_winner? hc hcover hpos
  obtain ⟨hmem, -, -, hmax⟩ := winner?_maximal hw
  constructor
  · have hlayer : HasLayer (resolve candidates length) p w.layer :=
      (hasLayer_resolve _ _ _ _).mpr ⟨hp, by rw [hw]; rfl⟩
    obtain ⟨region, hregion, hcover', -⟩ := hlayer
    exact ⟨region, hregion, hcover'⟩
  · intro region hregion hcover'
    have hlayer := ((hasLayer_resolve _ _ _ _).mp ⟨region, hregion, hcover', rfl⟩).2
    rw [hw, Option.map_some, Option.some.injEq] at hlayer
    exact ⟨w, hmem, hlayer, hmax c hc hcover⟩

/-- **The partition is canonical and unique**: it is in canonical form, every offset of the text has
the layer that the sweep left in its cell, and lists in canonical form that give every offset of the
text the same layer or gap are equal. -/
theorem resolve_canonical (candidates : List Candidate) (length : Int) :
    IsPartition length (resolve candidates length) ∧
      (∀ p : Nat, (p : Int) < length →
        layerAtLinear (resolve candidates length) p =
          (sweep candidates length.toNat)[p]?.bind Cell.layer) ∧
      ∀ xs ys : List Region, IsPartition length xs → IsPartition length ys →
        (∀ p : Nat, (p : Int) < length → layerAtLinear xs p = layerAtLinear ys p) → xs = ys := by
  refine ⟨isPartition_resolve candidates length, fun p hp => ?_, fun xs ys hx hy h => ?_⟩
  · apply Option.ext
    intro layer
    rw [layerAtLinear_eq_some_iff (isPartition_resolve candidates length).chain, resolve,
      hasLayer_mergeRuns]
    simp [Option.bind_eq_some_iff]
  · refine eq_of_hasLayer_iff hx.chain hy.chain fun p layer => ?_
    by_cases hp : (p : Int) < length
    · rw [← layerAtLinear_eq_some_iff hx.chain, ← layerAtLinear_eq_some_iff hy.chain, h p hp]
    · -- beyond the text neither list has anything
      have hnone : ∀ {zs : List Region}, IsPartition length zs → ¬ HasLayer zs p layer := by
        rintro zs hz ⟨region, hregion, hcover, -⟩
        have hstop := (hz.within region hregion).2
        have hlt := hcover.2
        omega
      exact iff_of_false (hnone hx) (hnone hy)

/-- The base language from end to end, past the text of six characters, under a name of the
library and markup that touches it. -/
def touchingCandidates : List Candidate :=
  [⟨⟨0, 9, by decide⟩, .javascript, 1⟩, ⟨⟨1, 3, by decide⟩, .react, 4⟩,
    ⟨⟨3, 4, by decide⟩, .jsx, 2⟩]

/-- Their regions, which are told apart where they touch. -/
def touchingRegions : List Region :=
  [⟨⟨0, 1, by decide⟩, .javascript⟩, ⟨⟨1, 3, by decide⟩, .react⟩, ⟨⟨3, 4, by decide⟩, .jsx⟩,
    ⟨⟨4, 6, by decide⟩, .javascript⟩]

/-- The regions are in canonical form, so the candidates resolve to them. -/
theorem resolve_touching :
    IsPartition 6 touchingRegions ∧ resolve touchingCandidates 6 = touchingRegions := by
  have hform : IsPartition 6 touchingRegions := ⟨by decide, by decide⟩
  obtain ⟨hresolve, -, hunique⟩ := resolve_canonical touchingCandidates 6
  refine ⟨hform, hunique _ _ hresolve hform fun p hp => ?_⟩
  have hp' : p < 6 := by omega
  interval_cases p <;> decide

end SourceLayers
