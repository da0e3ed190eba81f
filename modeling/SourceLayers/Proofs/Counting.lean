/-
Counts of the layers, offset by offset:

* `offsetsWith`: the offsets of a text at which the look-up finds a given layer, or nothing. Each
  offset is counted once among these (`total_card_offsetsWith`);
* `coverage_eq_card`: the count of a layer is the number of offsets that its regions cover, where
  the regions precede each other;
* `exists_resolve_of_classify`: the regions of a classification are those of some candidates;
* `commentCandidates_of_no_comments`: a tree without comments adds none to those of its walk.

Main statement: `coverage_counts`, for the partition of a text and for its classification.
-/
import Mathlib.Tactic
import SourceLayers.Proofs.Batch
import SourceLayers.Proofs.CommentScan
import SourceLayers.Proofs.Lookup

namespace SourceLayers

variable {regions : List Region} {layer : Layer}

/-! ### Offsets by their layers -/

/-- The offsets of a text at which the look-up finds a layer, or finds none. -/
def offsetsWith (regions : List Region) (length : Nat) (found : Option Layer) : Finset Nat :=
  (Finset.range length).filter fun p => layerAt regions p = found

lemma mem_offsetsWith {length : Nat} {found : Option Layer} {p : Nat} :
    p ∈ offsetsWith regions length found ↔ p < length ∧ layerAt regions p = found := by
  rw [offsetsWith, Finset.mem_filter, Finset.mem_range]

/-- Every offset has one of the four layers or lies in a gap. -/
lemma total_card_offsetsWith (regions : List Region) (length : Nat) :
    total (fun layer => (offsetsWith regions length (some layer)).card) Layer.all +
      (offsetsWith regions length none).card = length := by
  have hone : ∀ found : Option Layer,
      total (fun layer => if found = some layer then 1 else 0) Layer.all +
        (if found = none then 1 else 0) = 1 := by
    rintro (_ | _ | _ | _ | _) <;> rfl
  simp only [Layer.all, total_cons, total_nil] at hone ⊢
  simp only [offsetsWith, Finset.card_filter, Nat.add_zero, ← Finset.sum_add_distrib] at hone ⊢
  simp only [hone, Finset.sum_const, Finset.card_range, smul_eq_mul, Nat.mul_one]

/-- No offset lies in a gap exactly if the layers hold them all. -/
lemma card_gaps_eq_zero_iff {length : Nat} :
    (offsetsWith regions length none).card = 0 ↔
      ∀ p : Nat, p < length → layerAt regions p ≠ none := by
  rw [Finset.card_eq_zero, Finset.eq_empty_iff_forall_notMem]
  simp only [mem_offsetsWith, not_and, ne_eq]

/-! ### Regions by their lengths -/

/-- The regions of a layer are together as long as they cover offsets, if they precede each other.
The induction is on the regions: the offsets before the end of the first one are its own, if it is
of the layer, and the others are those of the rest. -/
lemma coverage_eq_card (hsorted : regions.Pairwise Region.Precedes) {offsets : Finset Nat}
    (h : ∀ p, p ∈ offsets ↔ HasLayer regions p layer) :
    coverage regions layer = offsets.card := by
  induction regions generalizing offsets with
  | nil =>
      have hempty : offsets = ∅ := Finset.eq_empty_of_forall_notMem fun p hp =>
        hasLayer_nil ((h p).mp hp)
      rw [hempty]
      rfl
  | cons first rest ih =>
      obtain ⟨hfirst, hrest⟩ := List.pairwise_cons.mp hsorted
      have hlater : ∀ p, HasLayer rest p layer → first.stop ≤ p := by
        rintro p ⟨region, hregion, hcovers, -⟩
        exact (hfirst region hregion).trans hcovers.1
      rw [coverage_cons]
      by_cases hlayer : first.layer = layer
      · have hown : offsets.filter (· < first.stop) = Finset.Ico first.start first.stop := by
          ext p
          rw [Finset.mem_filter, Finset.mem_Ico, h, hasLayer_cons]
          constructor
          · rintro ⟨⟨hcovers, -⟩ | hp, hlt⟩
            · exact hcovers
            · exact absurd (hlater p hp) (not_le.mpr hlt)
          · intro hcovers
            exact ⟨Or.inl ⟨hcovers, hlayer⟩, hcovers.2⟩
        have hothers : ∀ p, p ∈ offsets.filter (¬ · < first.stop) ↔ HasLayer rest p layer := by
          intro p
          rw [Finset.mem_filter, h, hasLayer_cons, not_lt]
          constructor
          · rintro ⟨⟨hcovers, -⟩ | hp, hle⟩
            · exact absurd hcovers.2 (not_lt.mpr hle)
            · exact hp
          · intro hp
            exact ⟨Or.inr hp, hlater p hp⟩
        have hlength : first.length = (offsets.filter (· < first.stop)).card := by
          rw [hown, Nat.card_Ico]
          rfl
        rw [if_pos hlayer, ih hrest hothers, hlength]
        exact Finset.card_filter_add_card_filter_not _
      · rw [if_neg hlayer, Nat.zero_add]
        refine ih hrest fun p => ?_
        rw [h, hasLayer_cons]
        simp [hlayer]

/-- In the partition of a text the count of a layer is the number of offsets at which the look-up
finds it. -/
lemma coverage_resolve (candidates : List Candidate) (length : Int) (layer : Layer) :
    coverage (resolve candidates length) layer =
      (offsetsWith (resolve candidates length) length.toNat (some layer)).card := by
  refine coverage_eq_card (pairwise_resolve candidates length) fun p => ?_
  rw [mem_offsetsWith]
  constructor
  · rintro ⟨-, hfound⟩
    simpa [HasLayer] using exists_of_layerAt hfound
  · intro hlayer
    have hlt := ((hasLayer_resolve _ _ _ _).mp hlayer).1
    obtain ⟨region, hregion, hcovers, rfl⟩ := hlayer
    exact ⟨by omega, layerAt_of_contains (pairwise_resolve candidates length) hregion
      (Span.contains_natCast.mpr hcovers)⟩

/-- The regions of a classification are those of some candidates; a blank text has none. -/
lemma exists_resolve_of_classify {vocabulary : Vocabulary} {parse : List Char → Node}
    {text : List Char} {result : Classification}
    (h : classify vocabulary parse text = .ok result) :
    ∃ candidates, result.regions = resolve candidates result.textLength := by
  rw [Classification.textLength_eq h]
  cases hblank : isBlankText text with
  | true =>
      rw [classify_of_blank hblank] at h
      cases h
      exact ⟨[], by simp [resolve, sweep, extent, mergeRuns]⟩
  | false =>
      obtain ⟨document, trace, -, -, hregions⟩ := walk_of_classify hblank h
      exact ⟨_, hregions⟩

/-- A tree without comments has no candidates of comments. -/
lemma commentCandidates_of_no_comments {text : List Char} {root : Node}
    (h : root.commentNodes = []) : (Document.ofPlaced text root).commentCandidates = [] := by
  refine List.eq_nil_iff_forall_not_mem.mpr fun c hc => ?_
  obtain ⟨-, -, comment, hcomment, -⟩ := Document.exists_comment_of_mem_commentCandidates hc
  obtain ⟨node, hnode, -⟩ := Document.mem_comments_iff.mp hcomment
  rw [h] at hnode
  exact List.not_mem_nil hnode

/-- **The counts of the layers count offsets**: in the partition of a text under any candidates the
count of each layer is the number of offsets at which the look-up finds it. Together with the gaps
these are all offsets, so the counts never exceed the length. A length below zero has no offsets.
In every classification, then, the layers hold at most the characters of the text, and all of them
exactly if there is no gap. -/
theorem coverage_counts (candidates : List Candidate) (length : Int) :
    (∀ layer, coverage (resolve candidates length) layer =
      (offsetsWith (resolve candidates length) length.toNat (some layer)).card) ∧
    total (coverage (resolve candidates length)) Layer.all +
      (offsetsWith (resolve candidates length) length.toNat none).card = length.toNat ∧
    (0 ≤ length →
      (total (coverage (resolve candidates length)) Layer.all : Int) =
          length - (offsetsWith (resolve candidates length) length.toNat none).card ∧
        (total (coverage (resolve candidates length)) Layer.all : Int) ≤ length) ∧
    ∀ vocabulary parse text result, classify vocabulary parse text = .ok result →
      (∀ layer, result.coverage layer =
        (offsetsWith result.regions result.textLength (some layer)).card) ∧
      total result.coverage Layer.all ≤ result.textLength ∧
      (total result.coverage Layer.all = result.textLength ↔
        ∀ p : Nat, p < result.textLength → layerAt result.regions p ≠ none) := by
  have hsum : ∀ (candidates : List Candidate) (length : Int),
      total (coverage (resolve candidates length)) Layer.all +
        (offsetsWith (resolve candidates length) length.toNat none).card = length.toNat := by
    intro candidates length
    rw [funext (coverage_resolve candidates length)]
    exact total_card_offsetsWith _ _
  refine ⟨coverage_resolve candidates length, hsum candidates length, fun hlength => ?_,
    fun vocabulary parse text result hresult => ?_⟩
  · have htotal := hsum candidates length
    omega
  · obtain ⟨claims, hregions⟩ := exists_resolve_of_classify hresult
    have htotal := hsum claims result.textLength
    have hlayers := coverage_resolve claims result.textLength
    rw [← hregions, Int.toNat_natCast] at htotal
    rw [← hregions, Int.toNat_natCast] at hlayers
    have hcoverage : result.coverage = coverage result.regions := rfl
    refine ⟨hlayers, ?_, ?_⟩
    · rw [hcoverage]
      omega
    · rw [← card_gaps_eq_zero_iff, hcoverage]
      omega

/-- Two statements with an empty line between them. -/
def partedText : List Char :=
  "a;\n\nb;".toList

/-- The tree of the two statements. -/
def partedTree : Node :=
  .construct "program" 0 6
    [.construct "expression_statement" 0 2
        [.construct "identifier" 0 1 [], .token ";" 1 2],
      .construct "expression_statement" 4 6
        [.construct "identifier" 4 5 [], .token ";" 5 6]]

/-- The statements hold four of the six characters, and the line ends between them are a gap. -/
theorem coverage_counts_parted :
    OnBoundaries partedText partedTree ∧
      ∃ result, classify .default (fun _ => partedTree) partedText = .ok result ∧
        result.coverage .javascript = 4 ∧ layerAt result.regions 2 = none ∧
        total result.coverage Layer.all < result.textLength := by
  have hboundaries : OnBoundaries partedText partedTree := by decide +kernel
  have hdocument : Document.ofTree (SourceText.ofText partedText) partedTree =
      .ok (Document.ofPlaced partedText partedTree) := by rfl
  have hwithin : ∃ trace ∈ Reading.walkWithin ⟨partedText, .default⟩ 5 NameSet.empty
      [Site.root partedTree], resolve trace.emitted 6 =
        [⟨⟨0, 2, by decide⟩, .javascript⟩, ⟨⟨4, 6, by decide⟩, .javascript⟩] := by decide +kernel
  obtain ⟨trace, hwalk, htrace⟩ := Reading.exists_walk_of_walkWithin hwithin
  obtain ⟨result, hresult, hregions⟩ :
      ∃ result, classify .default (fun _ => partedTree) partedText = .ok result ∧
        result.regions = resolve (trace.emitted ++
          (Document.ofPlaced partedText partedTree).commentCandidates) partedText.length :=
    classify_of_walk (by decide +kernel) hdocument hwalk
  have hlength : (partedText.length : Int) = 6 := by rfl
  rw [commentCandidates_of_no_comments (by rfl), List.append_nil, hlength, htrace] at hregions
  obtain ⟨-, -, -, hclassified⟩ := coverage_counts [] 0
  obtain ⟨hlayers, hle, hfull⟩ := hclassified _ _ _ _ hresult
  have hgap : layerAt result.regions 2 = none := by
    rw [hregions]
    decide +kernel
  have htext : result.textLength = 6 := Classification.textLength_eq hresult
  refine ⟨hboundaries, result, hresult, ?_, hgap, lt_of_le_of_ne hle fun heq => ?_⟩
  · rw [hlayers, hregions, htext]
    decide +kernel
  · exact hfull.mp heq 2 (by omega) hgap

end SourceLayers
