/-
Layers on top of each other:

* `Claimed`: some candidate claims a layer on an offset;
* `isTop_iff_claimed`: the top layer of an offset is claimed there, and none above it is;
* `resolve_eq_of_claimed_iff`: under standard candidates the partition depends on what is claimed
  where and on nothing else, so candidates may come in any order and any number of times
  (`claimed_iff_of_sameAssignments`);
* `layerAtLinear_resolve_append_base`: candidates of the base language at the end of a list fill
  gaps and change nothing else;
* `exists_classify_showing`: so a classification shows whatever the candidates of its walk show.

Main statement: `resolve_superposes`, that each layer shows where it is claimed and no layer above
it is, and that comments fill gaps only.
-/
import Mathlib.Tactic
import SourceLayers.Proofs.CommentScan
import SourceLayers.Proofs.Precedence

namespace SourceLayers

/-- The layers that win over a layer, from the top down. -/
def Layer.above : Layer → List Layer
  | .react => []
  | .typescript => [.react]
  | .jsx => [.react, .typescript]
  | .javascript => [.react, .typescript, .jsx]

lemma Layer.mem_above_iff {layer other : Layer} :
    other ∈ layer.above ↔ layer.priority < other.priority := by
  cases layer <;> cases other <;> decide

/-- All other layers are above the base language, which itself is above none. -/
lemma Layer.mem_above_base {layer : Layer} (h : layer ≠ .javascript) :
    layer ∈ Layer.javascript.above := by
  cases layer <;> simp_all [above]

lemma Layer.base_not_mem_above (layer : Layer) : Layer.javascript ∉ layer.above := by
  cases layer <;> decide

/-! ### What is claimed where -/

/-- Some candidate claims a layer on an offset: the union of the spans of the layer. -/
def Claimed (candidates : List Candidate) (layer : Layer) (p : Nat) : Prop :=
  ∃ c ∈ candidates, c.Covers p ∧ c.layer = layer

instance (candidates : List Candidate) (layer : Layer) (p : Nat) :
    Decidable (Claimed candidates layer p) :=
  inferInstanceAs (Decidable (∃ c ∈ candidates, _))

/-- A candidate without its priority: its bounds and its layer. -/
def Candidate.assignment (c : Candidate) : Nat × Nat × Layer :=
  (c.start, c.stop, c.layer)

/-- Two lists hold the same bounds with the same layers, in whatever order and however often. -/
def SameAssignments (xs ys : List Candidate) : Prop :=
  ∀ a, a ∈ xs.map Candidate.assignment ↔ a ∈ ys.map Candidate.assignment

variable {candidates xs ys : List Candidate} {layer : Layer} {p : Nat} {length : Int}

lemma claimed_append :
    Claimed (xs ++ ys) layer p ↔ Claimed xs layer p ∨ Claimed ys layer p := by
  simp only [Claimed, List.mem_append, or_and_right, exists_or]

/-- What is claimed where can be read off the bounds and layers. -/
lemma claimed_iff_assignment :
    Claimed candidates layer p ↔
      ∃ start stop, (start, stop, layer) ∈ candidates.map Candidate.assignment ∧
        start ≤ p ∧ p < stop := by
  constructor
  · rintro ⟨c, hc, ⟨hstart, hstop⟩, rfl⟩
    exact ⟨c.start, c.stop, List.mem_map_of_mem hc, hstart, hstop⟩
  · rintro ⟨start, stop, hmem, hstart, hstop⟩
    obtain ⟨c, hc, hassignment⟩ := List.mem_map.mp hmem
    cases hassignment
    exact ⟨c, hc, ⟨hstart, hstop⟩, rfl⟩

lemma claimed_iff_of_sameAssignments (h : SameAssignments xs ys) (layer : Layer) (p : Nat) :
    Claimed xs layer p ↔ Claimed ys layer p := by
  simp only [claimed_iff_assignment, h _]

/-- The top layer of an offset is claimed there, and no layer above it is. -/
lemma isTop_iff_claimed :
    IsTop candidates p layer ↔
      Claimed candidates layer p ∧
        ∀ other ∈ layer.above, ¬ Claimed candidates other p := by
  refine and_congr_right fun _ => ⟨fun hmax other hother => ?_, fun hnone c hc hcover => ?_⟩
  · rintro ⟨c, hc, hcover, rfl⟩
    exact absurd (hmax c hc hcover) (Nat.not_le.mpr (Layer.mem_above_iff.mp hother))
  · by_contra hlt
    exact hnone c.layer (Layer.mem_above_iff.mpr (Nat.not_le.mp hlt)) ⟨c, hc, hcover, rfl⟩

/-- An offset of the text shows the layer that is claimed there with none above it. -/
lemma layerAtLinear_resolve_iff_claimed (h : Standard candidates) :
    layerAtLinear (resolve candidates length) p = some layer ↔
      (p : Int) < length ∧ Claimed candidates layer p ∧
        ∀ other ∈ layer.above, ¬ Claimed candidates other p := by
  rw [layerAtLinear_resolve_eq_some_iff h, isTop_iff_claimed]

/-- **The partition depends on what is claimed where**: standard candidates that claim the same
layers on the same offsets have the same partition. -/
lemma resolve_eq_of_claimed_iff (hx : Standard xs) (hy : Standard ys)
    (h : ∀ layer p, Claimed xs layer p ↔ Claimed ys layer p) :
    resolve xs length = resolve ys length := by
  refine eq_of_hasLayer_iff (isPartition_resolve xs length).chain
    (isPartition_resolve ys length).chain fun p layer => ?_
  simp only [hasLayer_resolve_iff hx, hasLayer_resolve_iff hy, isTop_iff_claimed, h]

/-! ### Layer by layer -/

/-- A gap is an offset outside of the text, or one on which nothing is claimed. -/
lemma layerAtLinear_resolve_eq_none_iff (h : Standard candidates) :
    layerAtLinear (resolve candidates length) p = none ↔
      ((p : Int) < length → ∀ layer, ¬ Claimed candidates layer p) := by
  constructor
  · intro hnone hp layer hclaimed
    obtain ⟨c, hc, hcover, -⟩ := hclaimed
    -- whatever is claimed, the winner there shows
    obtain ⟨w, hw⟩ := exists_winner? hc hcover (h.priority_pos hc)
    have htop : IsTop candidates p w.layer :=
      (winner?_layer_eq_some_iff h).mp (by rw [hw, Option.map_some])
    rw [(layerAtLinear_resolve_eq_some_iff h).mpr ⟨hp, htop⟩] at hnone
    cases hnone
  · intro hgap
    rw [Option.eq_none_iff_forall_ne_some]
    intro layer hlayer
    obtain ⟨hp, hclaimed, -⟩ := (layerAtLinear_resolve_iff_claimed h).mp hlayer
    exact hgap hp layer hclaimed

/-- Candidates of the base language after others fill gaps and change nothing else. -/
lemma layerAtLinear_resolve_append_base (hx : Standard xs) (hy : Standard ys)
    (hbase : ∀ c ∈ ys, c.layer = .javascript) :
    layerAtLinear (resolve (xs ++ ys) length) p = some layer ↔
      layerAtLinear (resolve xs length) p = some layer ∨
        layerAtLinear (resolve xs length) p = none ∧ layer = .javascript ∧
          (p : Int) < length ∧ Claimed ys .javascript p := by
  have honly : ∀ other, Claimed ys other p → other = .javascript := by
    rintro other ⟨c, hc, -, rfl⟩
    exact hbase c hc
  rw [layerAtLinear_resolve_iff_claimed (standard_append.mpr ⟨hx, hy⟩),
    layerAtLinear_resolve_iff_claimed hx, layerAtLinear_resolve_eq_none_iff hx]
  simp only [claimed_append]
  constructor
  · rintro ⟨hp, hclaimed, hnone⟩
    by_cases hold : Claimed xs layer p
    · exact Or.inl ⟨hp, hold, fun other hmem hother => hnone other hmem (Or.inl hother)⟩
    · have hnew := hclaimed.resolve_left hold
      obtain rfl := honly layer hnew
      refine Or.inr ⟨fun _ other hother => ?_, rfl, hp, hnew⟩
      -- any other layer there would be above the base language
      have hne : other ≠ .javascript := fun heq => hold (heq ▸ hother)
      exact hnone other (Layer.mem_above_base hne) (Or.inl hother)
  · -- nothing that is added is above any layer
    have habove : ∀ other ∈ layer.above, ¬ Claimed ys other p := by
      intro other hmem hother
      rw [honly other hother] at hmem
      exact layer.base_not_mem_above hmem
    rintro (⟨hp, hold, hnone⟩ | ⟨hgap, rfl, hp, hnew⟩)
    · exact ⟨hp, Or.inl hold, fun other hmem hother =>
        hother.elim (hnone other hmem) (habove other hmem)⟩
    · exact ⟨hp, Or.inr hnew, fun other hmem hother =>
        hother.elim (hgap hp other) (habove other hmem)⟩

/-- A text that is not blank has a classification that shows whatever the candidates of its walk
show. -/
lemma exists_classify_showing {vocabulary : Vocabulary} (parse : List Char → Node)
    {text : List Char} {document : Document} {trace : Trace} (hblank : isBlankText text = false)
    (hdocument : Document.ofTree (SourceText.ofText text) (parse text) = .ok document)
    (hwalk : document.walk vocabulary NameSet.empty = .ok trace) :
    ∃ result, classify vocabulary parse text = .ok result ∧
      ∀ (p : Nat) layer, layerAtLinear (resolve trace.emitted text.length) p = some layer →
        HasLayer result.regions p layer := by
  obtain ⟨result, hresult, hregions⟩ := classify_of_walk hblank hdocument hwalk
  refine ⟨result, hresult, fun p layer hlayer => ?_⟩
  have hbase : ∀ c ∈ document.commentCandidates, c.layer = .javascript := fun c hc =>
    (Document.exists_comment_of_mem_commentCandidates hc).1
  have hshown := (layerAtLinear_resolve_append_base
    (Reading.walk_eq_ok_iff.mp hwalk).standard_emitted (standard_commentCandidates document)
    hbase).mpr (Or.inl hlayer)
  rw [hregions]
  exact (layerAtLinear_eq_some_iff (isPartition_resolve _ _).chain).mp hshown

/-- **Layers on top of each other**: standard candidates with the same bounds and layers have the
same partition, in whatever order they come and however often. In it the library shows wherever it
is claimed in the text, typed language where the library is not, markup where neither is, and the
base language where nothing else is. So the comments of a text, which come after the candidates of
the walk, only turn gaps that lie in comments into the base language. -/
theorem resolve_superposes (vocabulary : Vocabulary) (parse : List Char → Node)
    (text : List Char) :
    (∀ (length : Int) (xs ys : List Candidate), Standard xs → Standard ys →
      SameAssignments xs ys → resolve xs length = resolve ys length) ∧
    (∀ (length : Int) (xs : List Candidate), Standard xs → ∀ p : Nat,
      (layerAtLinear (resolve xs length) p = some .react ↔
        (p : Int) < length ∧ Claimed xs .react p) ∧
      (layerAtLinear (resolve xs length) p = some .typescript ↔
        (p : Int) < length ∧ Claimed xs .typescript p ∧ ¬ Claimed xs .react p) ∧
      (layerAtLinear (resolve xs length) p = some .jsx ↔
        (p : Int) < length ∧ Claimed xs .jsx p ∧ ¬ Claimed xs .react p ∧
          ¬ Claimed xs .typescript p) ∧
      (layerAtLinear (resolve xs length) p = some .javascript ↔
        (p : Int) < length ∧ Claimed xs .javascript p ∧ ¬ Claimed xs .react p ∧
          ¬ Claimed xs .typescript p ∧ ¬ Claimed xs .jsx p)) ∧
    (OnBoundaries text (parse text) → ∃ result, classify vocabulary parse text = .ok result) ∧
    ∀ result, classify vocabulary parse text = .ok result → isBlankText text = false →
      ∃ document trace, Document.ofTree (SourceText.ofText text) (parse text) = .ok document ∧
        document.walk vocabulary NameSet.empty = .ok trace ∧
        ∀ p : Nat,
          (∀ layer, layerAtLinear result.regions p = some layer ↔
            layerAtLinear (resolve trace.emitted text.length) p = some layer ∨
              layerAtLinear (resolve trace.emitted text.length) p = none ∧
                layer = .javascript ∧ p < text.length ∧
                Claimed document.commentCandidates .javascript p) ∧
          (Claimed document.commentCandidates .javascript p →
            ∃ comment ∈ document.comments, comment.start ≤ p ∧ (p : Int) < comment.stop) := by
  refine ⟨fun length xs ys hx hy hsame => ?_, fun length xs hx p => ?_, fun hboundaries => ?_,
    fun result hresult hblank => ?_⟩
  · exact resolve_eq_of_claimed_iff hx hy (claimed_iff_of_sameAssignments hsame)
  · simp [layerAtLinear_resolve_iff_claimed hx, Layer.above]
  · obtain ⟨-, -, result, -, -, hresult⟩ := exists_run vocabulary NameSet.empty parse hboundaries
    exact ⟨result, hresult⟩
  · obtain ⟨document, trace, hdocument, hwalk, hregions⟩ := walk_of_classify hblank hresult
    refine ⟨document, trace, hdocument, hwalk, fun p => ⟨fun layer => ?_, ?_⟩⟩
    · have hbase : ∀ c ∈ document.commentCandidates, c.layer = .javascript := fun c hc =>
        (Document.exists_comment_of_mem_commentCandidates hc).1
      rw [hregions, layerAtLinear_resolve_append_base
        (Reading.walk_eq_ok_iff.mp hwalk).standard_emitted (standard_commentCandidates document)
        hbase, Nat.cast_lt]
    · rintro ⟨c, hc, ⟨hstart, hstop⟩, -⟩
      obtain ⟨-, -, comment, hcomment, hbounds⟩ :=
        Document.exists_comment_of_mem_commentCandidates hc
      have hfirst : (c.start : Int) = comment.start := congrArg Prod.fst hbounds
      have hlast : (c.stop : Int) = comment.stop := congrArg Prod.snd hbounds
      exact ⟨comment, hcomment, by omega, by omega⟩

/-- A name of the library on markup, in a text of the base language. -/
def stackedCandidates : List Candidate :=
  claim 0 9 .javascript ++ claim 1 5 .jsx ++ claim 2 4 .react

/-- The same in another order, with the name of the library twice. -/
def shuffledCandidates : List Candidate :=
  claim 2 4 .react ++ claim 1 5 .jsx ++ claim 2 4 .react ++ claim 0 9 .javascript

/-- A call with one comment in it and one after it. -/
def remarkText : List Char :=
  "f(/*é*/1) //b".toList

/-- The tree of the call. -/
def remarkTree : Node :=
  .construct "program" 0 14
    [.construct "expression_statement" 0 10
        [.construct "call_expression" 0 10
          [.construct "identifier" 0 1 [],
            .construct "arguments" 1 10
              [.token "(" 1 2, .construct "comment" 2 8 [], .construct "number" 8 9 [],
                .token ")" 9 10]]],
      .construct "comment" 11 14 []]

/-- The candidates have the same regions in either order, with the library on top, and the comments
take nothing from the regions of the call. -/
theorem resolve_superposes_remark :
    Standard stackedCandidates ∧ Standard shuffledCandidates ∧
      SameAssignments stackedCandidates shuffledCandidates ∧
      resolve stackedCandidates 6 = resolve shuffledCandidates 6 ∧
      layerAtLinear (resolve stackedCandidates 6) 3 = some .react ∧
      isBlankText remarkText = false ∧ OnBoundaries remarkText remarkTree ∧
      ∃ result document trace, classify .default (fun _ => remarkTree) remarkText = .ok result ∧
        Document.ofTree (SourceText.ofText remarkText) remarkTree = .ok document ∧
        document.walk .default NameSet.empty = .ok trace ∧
        ∀ (p : Nat) layer, layerAtLinear (resolve trace.emitted 13) p = some layer →
          layerAtLinear result.regions p = some layer := by
  have hstacked : Standard stackedCandidates := by simp [stackedCandidates]
  have hshuffled : Standard shuffledCandidates := by simp [shuffledCandidates]
  have hsame : SameAssignments stackedCandidates shuffledCandidates := by
    intro a
    simp only [stackedCandidates, shuffledCandidates, List.map_append, List.mem_append]
    tauto
  have hblank : isBlankText remarkText = false := by decide +kernel
  have hboundaries : OnBoundaries remarkText remarkTree := by decide +kernel
  obtain ⟨hresolve, hlayers, hexists, hcomments⟩ :=
    resolve_superposes .default (fun _ => remarkTree) remarkText
  obtain ⟨result, hresult⟩ := hexists hboundaries
  obtain ⟨document, trace, hdocument, hwalk, hshown⟩ := hcomments result hresult hblank
  refine ⟨hstacked, hshuffled, hsame, hresolve 6 _ _ hstacked hshuffled hsame, ?_, hblank,
    hboundaries, result, document, trace, hresult, hdocument, hwalk, fun p layer hlayer => ?_⟩
  · exact (hlayers 6 _ hstacked 3).1.mpr (by decide)
  · exact ((hshown p).1 layer).mpr (Or.inl hlayer)

end SourceLayers
