/-
The candidate that holds an offset:

* `Span.Contains`: a span around an integer, which need not be an offset of any text;
* `foremost?`: of the candidates around an integer, the first one whose priority no other exceeds;
* `winner?_concat`, `exists_before_of_winner?`: the contest goes on with one more candidate, and
  whoever comes before the winner is of strictly lower priority;
* `foremost?_of_winner?`: the winner of an offset is the foremost candidate there;
* `Region.Precedes`, `filter_contains_of_pairwise`: of regions that precede each other at most one
  lies around an integer.

Main statement: `resolve_foremost`, that in the partition of a text the foremost candidate holds an
offset if some candidate there has a positive priority, and nobody does otherwise.
-/
import Mathlib.Tactic
import SourceLayers.Proofs.Partition

namespace SourceLayers

/-! ### Spans around an integer -/

/-- Whether an integer lies in the span. -/
def Span.Contains (span : Span) (p : Int) : Prop :=
  (span.start : Int) ≤ p ∧ p < span.stop

instance (span : Span) (p : Int) : Decidable (span.Contains p) :=
  inferInstanceAs (Decidable (_ ∧ _))

@[simp] lemma Span.contains_natCast {span : Span} {p : Nat} :
    span.Contains (p : Int) ↔ span.Covers p := by
  simp [Contains, Covers]

/-- Nothing below zero lies in a span. -/
lemma Span.Contains.nonneg {span : Span} {p : Int} (h : span.Contains p) : 0 ≤ p :=
  (Int.natCast_nonneg _).trans h.1

/-! ### The foremost candidate -/

/-- The first candidate, in the order of the list, among those around `p` with the highest priority
there. -/
def foremost? (candidates : List Candidate) (p : Int) : Option Candidate :=
  candidates.find? fun c =>
    decide (c.Contains p ∧ ∀ d ∈ candidates, d.Contains p → d.priority ≤ c.priority)

variable {candidates : List Candidate} {p : Nat}

/-- One more candidate takes part in the contest if it covers the offset with a positive
priority. -/
lemma winner?_concat (candidates : List Candidate) (c : Candidate) (p : Nat) :
    winner? (candidates ++ [c]) p =
      if c.Covers p ∧ 0 < c.priority then better (winner? candidates p) c
      else winner? candidates p := by
  rw [winner?_eq_foldl, winner?_eq_foldl, contenders, List.filter_append, List.foldl_append]
  split_ifs with hc <;> simp [hc, contenders]

/-- Candidates without positive priority take no part in the contest. -/
lemma winner?_filter_pos (candidates : List Candidate) (p : Nat) :
    winner? (candidates.filter fun c => decide (0 < c.priority)) p = winner? candidates p := by
  rw [winner?_eq_foldl, winner?_eq_foldl, contenders, contenders, List.filter_filter]
  congr 2
  funext c
  by_cases hpos : 0 < c.priority <;> simp [hpos]

/-- Candidates before the winner are of strictly lower priority, where they cover the offset. -/
lemma exists_before_of_winner? {w : Candidate} (h : winner? candidates p = some w) :
    ∃ before after, candidates = before ++ w :: after ∧
      ∀ c ∈ before, c.Covers p → c.priority < w.priority := by
  induction candidates using List.reverseRecOn generalizing w with
  | nil => cases h
  | append_singleton cs c ih =>
      -- a winner among the candidates so far stays where it is
      have hstays : winner? cs p = some w → ∃ before after, cs ++ [c] = before ++ w :: after ∧
          ∀ d ∈ before, d.Covers p → d.priority < w.priority := by
        intro hw
        obtain ⟨before, after, rfl, hbefore⟩ := ih hw
        exact ⟨before, after ++ [c], by simp, hbefore⟩
      rw [winner?_concat] at h
      split_ifs at h with hc
      · cases hbest : winner? cs p with
        | none =>
            obtain rfl : c = w := by simpa [hbest, better] using h
            refine ⟨cs, [], rfl, fun d hd hcover => ?_⟩
            -- nobody so far has a positive priority
            by_contra hle
            obtain ⟨b, hb⟩ := exists_winner? hd hcover (by omega)
            rw [hbest] at hb
            cases hb
        | some b =>
            by_cases hlt : b.priority < c.priority
            · obtain rfl : c = w := by simpa [hbest, better, hlt] using h
              refine ⟨cs, [], rfl, fun d hd hcover => ?_⟩
              calc d.priority ≤ b.priority := (winner?_maximal hbest).2.2.2 d hd hcover
                _ < c.priority := hlt
            · obtain rfl : b = w := by simpa [hbest, better, hlt] using h
              exact hstays hbest
      · exact hstays h

/-- The winner of an offset is the foremost candidate there. -/
lemma foremost?_of_winner? {w : Candidate} (h : winner? candidates p = some w) :
    foremost? candidates p = some w := by
  obtain ⟨hmem, hcover, -, hmax⟩ := winner?_maximal h
  obtain ⟨before, after, hsplit, hbefore⟩ := exists_before_of_winner? h
  refine List.find?_eq_some_iff_append.mpr ⟨by simpa using ⟨hcover, hmax⟩, before, after, hsplit,
    fun c hc => ?_⟩
  simp only [Span.contains_natCast, Bool.not_eq_true', decide_eq_false_iff_not]
  rintro ⟨hccover, hcmax⟩
  exact absurd (hcmax w hmem hcover) (not_le.mpr (hbefore c hc hccover))

/-! ### The region around an integer -/

/-- A region ends before another one begins, or right there. The layers do not matter. -/
def Region.Precedes (left right : Region) : Prop :=
  left.stop ≤ right.start

instance (left right : Region) : Decidable (left.Precedes right) :=
  inferInstanceAs (Decidable (_ ≤ _))

instance : Trans Region.Precedes Region.Precedes Region.Precedes where
  trans {_ middle _} hleft hright := hleft.trans (middle.start_lt_stop.le.trans hright)

/-- Where each region precedes the next one, it precedes all later ones. -/
lemma pairwise_precedes {regions : List Region} (h : regions.IsChain Region.Precedes) :
    regions.Pairwise Region.Precedes :=
  List.isChain_iff_pairwise.mp h

/-- No integer lies in a region and in one that it precedes. -/
lemma Region.Precedes.not_contains {left right : Region} {q : Int} (h : left.Precedes right)
    (hleft : left.Contains q) : ¬ right.Contains q := by
  intro hright
  have hle : left.stop ≤ right.start := h
  have hlast := hleft.2
  have hfirst := hright.1
  omega

/-- Of regions that precede each other at most one lies around an integer. -/
lemma filter_contains_of_pairwise {regions : List Region} {q : Int}
    (h : regions.Pairwise Region.Precedes) {region : Region} (hmem : region ∈ regions)
    (hcontains : region.Contains q) :
    (regions.filter fun r => decide (r.Contains q)) = [region] := by
  induction regions with
  | nil => cases hmem
  | cons first rest ih =>
      obtain ⟨hfollow, hrest⟩ := List.pairwise_cons.mp h
      rcases List.mem_cons.mp hmem with rfl | hlater
      · have hnil : (rest.filter fun r => decide (r.Contains q)) = [] :=
          List.filter_eq_nil_iff.mpr fun r hr => by
            simpa using (hfollow r hr).not_contains hcontains
        rw [List.filter_cons_of_pos (by simpa using hcontains), hnil]
      · have hfirst : ¬ first.Contains q := fun hfirst =>
          (hfollow region hlater).not_contains hfirst hcontains
        rw [List.filter_cons_of_neg (by simpa using hfirst)]
        exact ih hrest hlater

/-- Of regions in order only one covers an offset. -/
lemma filter_covers_of_isChain {regions : List Region} (h : regions.IsChain Region.MayPrecede)
    {region : Region} (hmem : region ∈ regions) (hcover : region.Covers p) :
    (regions.filter fun r => decide (r.Covers p)) = [region] := by
  have hprecede : regions.IsChain Region.Precedes := h.imp fun _ _ hmay => hmay.1
  simpa using
    filter_contains_of_pairwise (pairwise_precedes hprecede) hmem (Span.contains_natCast.mpr hcover)

/-- A region lies around an offset exactly if the text has the offset and somebody wins it. -/
lemma exists_region_iff {length : Int} :
    (∃ region ∈ resolve candidates length, region.Covers p) ↔
      (p : Int) < length ∧ ∃ c ∈ candidates, 0 < c.priority ∧ c.Covers p := by
  constructor
  · rintro ⟨region, hregion, hcover⟩
    obtain ⟨hp, hlayer⟩ := (hasLayer_resolve _ _ _ _).mp ⟨region, hregion, hcover, rfl⟩
    obtain ⟨w, hw, -⟩ := Option.map_eq_some_iff.mp hlayer
    obtain ⟨hmem, hwcover, hpos, -⟩ := winner?_maximal hw
    exact ⟨hp, w, hmem, hpos, hwcover⟩
  · rintro ⟨hp, c, hc, hpos, hcover⟩
    exact (exists_region_of_candidate hc hcover hpos hp).1

/-- **Offset by offset**: where a candidate of positive priority lies around an offset of the text,
exactly one region does, with the layer of the foremost candidate. No region lies around any other
integer. So regions end with the text, candidates without positive priority may as well be left out,
and a text of no length has no regions. -/
theorem resolve_foremost (candidates : List Candidate) (length p : Int) :
    (0 ≤ p → p < length → (∃ c ∈ candidates, 0 < c.priority ∧ c.Contains p) →
      ∃ w region, foremost? candidates p = some w ∧
        ((resolve candidates length).filter fun r => decide (r.Contains p)) = [region] ∧
        region.layer = w.layer) ∧
    (¬ (0 ≤ p ∧ p < length ∧ ∃ c ∈ candidates, 0 < c.priority ∧ c.Contains p) →
      ∀ region ∈ resolve candidates length, ¬ region.Contains p) ∧
    (∀ region ∈ resolve candidates length, (region.stop : Int) ≤ length) ∧
    resolve (candidates.filter fun c => decide (0 < c.priority)) length =
      resolve candidates length ∧
    (length ≤ 0 → resolve candidates length = []) := by
  have hpartition := isPartition_resolve candidates length
  refine ⟨fun hp hlength hclaimed => ?_, fun hnone region hregion hcontains => ?_,
    fun region hregion => (hpartition.within region hregion).2, ?_, fun hempty => ?_⟩
  · lift p to ℕ using hp
    obtain ⟨c, hc, hpos, hcontains⟩ := hclaimed
    obtain ⟨w, hw⟩ := exists_winner? hc (Span.contains_natCast.mp hcontains) hpos
    obtain ⟨region, hregion, hcover, hlayer⟩ : HasLayer (resolve candidates length) p w.layer :=
      (hasLayer_resolve _ _ _ _).mpr ⟨hlength, by rw [hw]; rfl⟩
    refine ⟨w, region, foremost?_of_winner? hw, ?_, hlayer⟩
    simpa using filter_covers_of_isChain hpartition.chain hregion hcover
  · have hp := hcontains.nonneg
    lift p to ℕ using hp
    obtain ⟨hlength, hclaimed⟩ :=
      exists_region_iff.mp ⟨region, hregion, Span.contains_natCast.mp hcontains⟩
    exact hnone ⟨Int.natCast_nonneg p, hlength, by simpa using hclaimed⟩
  · refine eq_of_hasLayer_iff (isPartition_resolve _ _).chain hpartition.chain fun q layer => ?_
    rw [hasLayer_resolve, hasLayer_resolve, winner?_filter_pos]
  · refine List.eq_nil_iff_forall_not_mem.mpr fun region hregion => ?_
    obtain ⟨hnonempty, hstop⟩ := hpartition.within region hregion
    omega

/-- The base language, a name of the library of the same priority, markup of a higher one that goes
past the end of a text of six characters, and types of a negative one. -/
def contestedCandidates : List Candidate :=
  [⟨⟨0, 5, by decide⟩, .javascript, 5⟩, ⟨⟨1, 4, by decide⟩, .react, 5⟩,
    ⟨⟨2, 9, by decide⟩, .jsx, 7⟩, ⟨⟨5, 12, by decide⟩, .typescript, -2⟩]

/-- Among equals the first one holds the offset, whatever its layer. -/
theorem resolve_foremost_tied :
    (∃ c ∈ contestedCandidates, 0 < c.priority ∧ c.Contains 1) ∧
      (∃ region,
        ((resolve contestedCandidates 6).filter fun r => decide (r.Contains 1)) = [region] ∧
          region.layer = .javascript) ∧
      (∀ region ∈ resolve contestedCandidates 6, ¬ region.Contains 7) ∧
      resolve contestedCandidates 0 = [] := by
  have hclaimed : ∃ c ∈ contestedCandidates, 0 < c.priority ∧ c.Contains 1 := by decide
  obtain ⟨w, region, hw, hregion, hlayer⟩ :=
    (resolve_foremost contestedCandidates 6 1).1 (by decide) (by decide) hclaimed
  have hfirst : foremost? contestedCandidates 1 = contestedCandidates.head? := by decide
  rw [hfirst] at hw
  cases hw
  exact ⟨hclaimed, ⟨region, hregion, hlayer⟩,
    (resolve_foremost contestedCandidates 6 7).2.1 (by decide),
    (resolve_foremost contestedCandidates 0 0).2.2.2.2 le_rfl⟩

end SourceLayers
