/-
What the regions of a text cover:

* `HeldAt`: an offset is in a region, and the regions there have certain layers;
* `Node.HeldBy`: so is every offset of a node, as far as the text goes;
* `heldAt_of_candidate`, `heldBy_of_mark`: where a candidate lies the layers from its own on hold
  the text, and so they do a node that is marked;
* `heldBy_of_covered`: so every node of a covered kind that a walk visits is held;
* `mem_visited_of_content`: a root without a rule of its own leads to its content;
* `exists_region_of_comment`: comments are in the regions;
* `HoldsStatements`: the tree of a text of statements.

Main statements: `visited_held`, that no rule loses the base under a node, and `gaps_blank`, that in
a text of statements there are gaps only at blanks.
-/
import Mathlib.Tactic
import SourceLayers.Proofs.BaseLayer
import SourceLayers.Proofs.Classification

namespace SourceLayers

/-! ### Nodes that are held -/

/-- Every offset of a node, as far as the text goes, is in a region, and all regions there have one
of the layers. -/
def Node.HeldBy (node : Node) (regions : List Region) (length : Nat) (layers : List Layer) : Prop :=
  ∀ p, node.Spans p → p < length →
    (∃ region ∈ regions, region.Covers p) ∧
      ∀ region ∈ regions, region.Covers p → region.layer ∈ layers

variable {vocabulary : Vocabulary} {parse : List Char → Node} {text : List Char}

/-- The layers that win over a layer, and the layer itself. -/
def Layer.upward (layer : Layer) : List Layer :=
  Layer.all.filter fun other => layer.priority ≤ other.priority

lemma Layer.priority_pos (layer : Layer) : 0 < layer.priority := by
  cases layer <;> decide

/-- An offset is in a region, and all regions there have one of the layers. -/
def HeldAt (regions : List Region) (p : Nat) (layers : List Layer) : Prop :=
  (∃ region ∈ regions, region.Covers p) ∧
    ∀ region ∈ regions, region.Covers p → region.layer ∈ layers

/-- Among standard candidates the layers from that of a candidate on hold the text where it lies. -/
lemma heldAt_of_candidate {candidates : List Candidate} {c : Candidate} {p length : Nat}
    (hstandard : Standard candidates) (hc : c ∈ candidates) (hcover : c.Covers p)
    (hp : p < length) : HeldAt (resolve candidates length) p c.layer.upward := by
  have hpos : 0 < c.priority := by
    have := c.layer.priority_pos
    rw [hstandard c hc]
    omega
  have hwithin : (p : Int) < (length : Int) := by exact_mod_cast hp
  obtain ⟨hcovered, hlayers⟩ := exists_region_of_candidate hc hcover hpos hwithin
  refine ⟨hcovered, fun region hregion hcovers => ?_⟩
  -- the winner there is standard too, so its layer is no lower
  obtain ⟨w, hw, hlayer, hle⟩ := hlayers region hregion hcovers
  rw [hstandard w hw, hstandard c hc, hlayer] at hle
  refine List.mem_filter.mpr ⟨Layer.mem_all _, ?_⟩
  simpa using hle

/-- The same for the candidates of a walk, besides those of the comments. -/
lemma heldAt_of_emitted {document : Document} {enums : NameSet} {trace : Trace} {c : Candidate}
    {p length : Nat} (hwalk : document.walk vocabulary enums = .ok trace) (hc : c ∈ trace.emitted)
    (hcover : c.Covers p) (hp : p < length) :
    HeldAt (resolve (trace.emitted ++ document.commentCandidates) length) p c.layer.upward :=
  heldAt_of_candidate (Document.standard_candidates hwalk) (List.mem_append_left _ hc) hcover hp

/-- Among standard candidates a node that is marked in a layer is held by the layers from that one
on. -/
lemma heldBy_of_mark {candidates : List Candidate} {node : Node} {layer : Layer}
    (hstandard : Standard candidates) (hmark : ∀ c ∈ mark node layer, c ∈ candidates)
    (length : Nat) : node.HeldBy (resolve candidates length) length layer.upward := by
  intro p hspans hp
  obtain ⟨hfirst, hlast⟩ := hspans
  let c : Candidate := ⟨⟨node.start, node.stop, by omega⟩, layer, layer.priority⟩
  have hc : c ∈ candidates := hmark c (mem_mark.mpr ⟨rfl, rfl, rfl, rfl⟩)
  exact heldAt_of_candidate hstandard hc ⟨hfirst, hlast⟩ hp

lemma Node.HeldBy.mono {node : Node} {regions : List Region} {length : Nat} {xs ys : List Layer}
    (h : node.HeldBy regions length xs) (hxy : ∀ layer ∈ xs, layer ∈ ys) :
    node.HeldBy regions length ys := by
  intro p hspans hp
  obtain ⟨hcovered, hlayers⟩ := h p hspans hp
  exact ⟨hcovered, fun region hregion hcovers => hxy _ (hlayers region hregion hcovers)⟩

/-- A visited node is held by the layers from those on in which the step at it may mark it. -/
lemma heldBy_of_visited {document : Document} {enums : NameSet} {trace : Trace} {site : Site}
    {layers : List Layer} (hwalk : document.walk vocabulary enums = .ok trace)
    (hsite : site ∈ trace.visited)
    (hmarks : ∀ known step, Reading.visit ⟨document.text, vocabulary⟩ known site = .ok step →
      ∃ layer, step.Marks site.node layer ∧ ∀ other ∈ layer.upward, other ∈ layers)
    (length : Nat) :
    site.node.HeldBy (resolve (trace.emitted ++ document.commentCandidates) length) length
      layers := by
  obtain ⟨known, step, hvisit, hemitted, -⟩ :=
    (Reading.walk_eq_ok_iff.mp hwalk).step_of_visited hsite
  obtain ⟨layer, hmark, hlayers⟩ := hmarks known step hvisit
  refine (heldBy_of_mark (Document.standard_candidates hwalk) (fun c hc => ?_) length).mono hlayers
  exact List.mem_append_left _ (hemitted c (hmark c hc))

/-- A visited node of a covered kind is held by some layer. -/
lemma heldBy_of_covered {document : Document} {enums : NameSet} {trace : Trace} {site : Site}
    (hwalk : document.walk vocabulary enums = .ok trace) (hsite : site ∈ trace.visited)
    (hkind : site.node.kind ∈ coveredKinds) (length : Nat) :
    site.node.HeldBy (resolve (trace.emitted ++ document.commentCandidates) length) length
      Layer.all := by
  refine heldBy_of_visited hwalk hsite (fun known step hvisit => ?_) length
  obtain ⟨layer, hmark⟩ := visit_marks hkind hvisit
  exact ⟨layer, hmark, fun other _ => Layer.mem_all other⟩

/-- A root without a rule of its own leads to its content. -/
lemma mem_visited_of_content {document : Document} {enums : NameSet} {trace : Trace}
    (hwalk : document.walk vocabulary enums = .ok trace)
    (hrule : Rule.ofKind? document.root.kind = none) {child : Node}
    (hchild : child ∈ document.root.content) : ∃ site ∈ trace.visited, site.node = child := by
  have hwalks := Reading.walk_eq_ok_iff.mp hwalk
  have hroot := hwalks.mem_visited _ (List.mem_singleton_self (Site.root document.root))
  obtain ⟨site, hsite, hnode, -⟩ := hwalks.exists_visited_of_content hroot
    (fun known step hvisit => fates_of_no_rule hrule hvisit) hchild
  exact ⟨site, hsite, hnode⟩

/-- **No rule loses the base**: for a text that is not blank and a tree on its boundaries there are
a document and a walk. For whatever document and walk there are, each visited node is covered from
end to end if its kind is in a table or has a rule in place of one; a node of types lies in typed
language or the library, and text in markup in those or in markup. -/
theorem visited_held (vocabulary : Vocabulary) (parse : List Char → Node) (text : List Char)
    (hblank : isBlankText text = false) :
    (OnBoundaries text (parse text) →
      ∃ document trace, Document.ofTree (SourceText.ofText text) (parse text) = .ok document ∧
        document.walk vocabulary NameSet.empty = .ok trace) ∧
    ∀ document trace, Document.ofTree (SourceText.ofText text) (parse text) = .ok document →
      document.walk vocabulary NameSet.empty = .ok trace →
      ∃ result, classify vocabulary parse text = .ok result ∧
        ∀ site ∈ trace.visited,
          (site.node.kind ∈ coveredKinds →
            site.node.HeldBy result.regions text.length Layer.all) ∧
          (site.node.kind ∈ typedKinds →
            site.node.HeldBy result.regions text.length [.typescript, .react]) ∧
          (site.node.kind ∈ markupKinds →
            site.node.HeldBy result.regions text.length [.typescript, .jsx, .react]) := by
  constructor
  · intro hboundaries
    obtain ⟨document, hdocument, htext, hwithin⟩ := Document.exists_document hboundaries
    rw [← htext] at hwithin
    obtain ⟨trace, hwalk⟩ := Document.exists_walk_root vocabulary NameSet.empty hwithin
    exact ⟨document, trace, hdocument, hwalk⟩
  · intro document trace hdocument hwalk
    obtain ⟨result, hresult, hregions⟩ := classify_of_walk hblank hdocument hwalk
    refine ⟨result, hresult, fun site hsite => ?_⟩
    rw [hregions]
    refine ⟨fun hkind => heldBy_of_covered hwalk hsite hkind _, fun hkind => ?_, fun hkind => ?_⟩
    · exact heldBy_of_visited hwalk hsite
        (fun known step hvisit => ⟨.typescript, visit_marks_typed hkind hvisit, fun _ h => h⟩) _
    · exact heldBy_of_visited hwalk hsite
        (fun known step hvisit => ⟨.jsx, visit_marks_markup hkind hvisit, fun _ h => h⟩) _

/-- A declaration without a value, with a character of two octets at its end. -/
def ambientText : List Char :=
  "declare let é".toList

/-- The tree of the declaration, whose end is `stop`. -/
def ambientTree (stop : Nat) : Node :=
  .construct "program" 0 stop
    [.construct "ambient_declaration" 0 stop
      [.token "declare" 0 7,
        .construct "lexical_declaration" 8 stop
          [.token "let" 8 11,
            .construct "variable_declarator" 12 stop [.construct "identifier" 12 stop []]]]]

/-- All that the declaration contains is held as types. -/
theorem visited_held_ambient :
    isBlankText ambientText = false ∧ OnBoundaries ambientText (ambientTree 14) ∧
      ∃ result, classify .default (fun _ => ambientTree 14) ambientText = .ok result ∧
        ∀ child ∈ (ambientTree 13).content,
          child.HeldBy result.regions 13 [.typescript, .react] := by
  have hblank : isBlankText ambientText = false := by decide +kernel
  have hboundaries : OnBoundaries ambientText (ambientTree 14) := by decide +kernel
  obtain ⟨hexists, hheld⟩ :=
    visited_held .default (fun _ => ambientTree 14) ambientText hblank
  obtain ⟨document, trace, hdocument, hwalk⟩ := hexists hboundaries
  have hplace : Document.ofTree (SourceText.ofText ambientText) (ambientTree 14) =
      .ok (Document.ofPlaced ambientText (ambientTree 13)) := by rfl
  obtain rfl : Document.ofPlaced ambientText (ambientTree 13) = document :=
    Except.ok.inj (hplace.symm.trans hdocument)
  obtain ⟨result, hresult, hvisited⟩ := hheld _ trace hdocument hwalk
  refine ⟨hblank, hboundaries, result, hresult, fun child hchild => ?_⟩
  obtain ⟨site, hsite, rfl⟩ := mem_visited_of_content hwalk (by decide +kernel) hchild
  have hkind : ∀ child ∈ (ambientTree 13).content, child.kind ∈ typedKinds := by decide +kernel
  exact (hvisited site hsite).2.1 (hkind _ hchild)

/-! ### Texts of statements -/

/-- The kinds of statements, each of them covered. -/
def statementKinds : List String :=
  baseKinds ++ typeKinds ++
    ["abstract_class_declaration", "ambient_declaration", "module", "internal_module",
      "decorator", "function_signature"]

lemma mem_coveredKinds_of_statement {kind : String} (h : kind ∈ statementKinds) :
    kind ∈ coveredKinds := by
  have hothers : ∀ kind ∈ ["abstract_class_declaration", "ambient_declaration", "module",
      "internal_module", "decorator", "function_signature"], kind ∈ ruledKinds := by decide
  simp only [statementKinds, coveredKinds, tabledKinds, List.mem_append] at h ⊢
  rcases h with (hbase | htype) | hother
  · exact Or.inl (Or.inr hbase)
  · exact Or.inl (Or.inl (Or.inl (Or.inr htype)))
  · exact Or.inr (hothers kind hother)

/-- The tree of a text of statements: a root that is only there to hold them, and statements that
hold all tokens. -/
@[mk_iff]
structure HoldsStatements (text : List Char) (root : Node) : Prop where
  root_not_comment : root.isComment = false
  root_no_rule : Rule.ofKind? root.kind = none
  root_not_tabled : root.kind ∉ tabledKinds
  statements : ∀ child ∈ root.content, child.kind ∈ statementKinds
  tokenised : WellTokenised text root
  inside : ∀ token ∈ root.tokenNodes, ∃ child ∈ root.content,
    child.start ≤ token.start ∧ token.stop ≤ child.stop

instance (text : List Char) (root : Node) : Decidable (HoldsStatements text root) :=
  decidable_of_iff _ (holdsStatements_iff text root).symm

/-- A comment of a well tokenised text is in the regions. -/
lemma exists_region_of_comment {root node : Node} (h : WellTokenised text root)
    (hnode : node ∈ root.commentNodes) {emitted : List Candidate} {p : Nat}
    (hspans : node.Spans p) (hp : p < text.length) :
    ∃ region ∈ resolve (emitted ++ (Document.ofPlaced text root).commentCandidates) text.length,
      region.Covers p := by
  obtain ⟨comment, hat⟩ := exists_commentAt? (h.comment_lt hnode)
  obtain ⟨hstart, hstop⟩ := commentAt?_eq_some hat
  have hmet := h.mem_metComments (Document.mem_comments_iff.mpr ⟨node, hnode, hat⟩)
  obtain ⟨c, hc, hcstart, hcstop⟩ := exists_commentCandidate hmet (by omega)
  have hcovers : c.Covers p := by
    obtain ⟨hfirst, hlast⟩ := hspans
    exact ⟨by omega, by omega⟩
  have hpos : 0 < c.priority := by
    have := c.layer.priority_pos
    rw [standard_commentCandidates _ c hc]
    omega
  have hwithin : (p : Int) < (text.length : Int) := by exact_mod_cast hp
  exact (exists_region_of_candidate (List.mem_append_right _ hc) hcovers hpos hwithin).1

/-- **Gaps are blank**: a text of statements whose tree lies within it has a classification, and
whatever classification it has, every character that is not blank is in a region. -/
theorem gaps_blank (vocabulary : Vocabulary) (parse : List Char → Node) (text : List Char)
    (root : Node) (hplace : Document.place (SourceText.ofText text) (parse text) = .ok root)
    (h : HoldsStatements text root) :
    (LiesWithin text root → ∃ result, classify vocabulary parse text = .ok result) ∧
      ∀ result, classify vocabulary parse text = .ok result →
        ∀ p c, text[p]? = some c → isBlank c = false →
          ∃ region ∈ result.regions, region.Covers p := by
  have hroot : Document.ofTree (SourceText.ofText text) (parse text) =
      .ok (Document.ofPlaced text root) := Document.ofTree_eq_ok_iff.mpr ⟨root, hplace, rfl⟩
  refine ⟨fun hwithin => exists_classify vocabulary hroot hwithin, ?_⟩
  intro result hresult p c hc hnonblank
  obtain ⟨hp, rfl⟩ := List.getElem?_eq_some_iff.mp hc
  have hblank : isBlankText text = false := by
    rw [isBlankText, List.all_eq_false]
    exact ⟨text[p], List.getElem_mem hp, by simp [hnonblank]⟩
  obtain ⟨document, trace, hdocument, hwalk, hregions⟩ := walk_of_classify hblank hresult
  rw [hroot] at hdocument
  cases hdocument
  rw [hregions]
  -- a character that is not blank is in a token or in a comment
  obtain ⟨piece, hpiece, hspans⟩ : ∃ piece ∈ root.pieces, piece.Spans p := by
    by_contra hnone
    have hlies := h.tokenised.blank p hp fun node hnode hspans => hnone ⟨node, hnode, hspans⟩
    rw [hlies] at hnonblank
    cases hnonblank
  rcases List.mem_append.mp hpiece with htoken | hcomment
  · obtain ⟨child, hchild, hfirst, hlast⟩ := h.inside piece htoken
    obtain ⟨site, hsite, rfl⟩ := mem_visited_of_content hwalk h.root_no_rule hchild
    have hkind := mem_coveredKinds_of_statement (h.statements _ hchild)
    have hchildSpans : site.node.Spans p :=
      ⟨hfirst.trans hspans.1, hspans.2.trans_le hlast⟩
    exact (heldBy_of_covered hwalk hsite hkind text.length p hchildSpans hp).1
  · exact exists_region_of_comment h.tokenised hcomment hspans hp

/-- A call between two comments, one of them with a character of two octets. -/
def callText : List Char :=
  "/*é*/ f(1); //b".toList

/-- The tree of the call, its offsets counted in octets. -/
def callTree : Node :=
  .construct "program" 0 16
    [.construct "comment" 0 6 [],
      .construct "expression_statement" 7 12
        [.construct "call_expression" 7 11
          [.construct "identifier" 7 8 [],
            .construct "arguments" 8 11
              [.token "(" 8 9, .construct "number" 9 10 [], .token ")" 10 11]],
          .token ";" 11 12],
      .construct "comment" 13 16 []]

/-- The tree of the call, its offsets counted in characters. -/
def placedCall : Node :=
  .construct "program" 0 15
    [.construct "comment" 0 5 [],
      .construct "expression_statement" 6 11
        [.construct "call_expression" 6 10
          [.construct "identifier" 6 7 [],
            .construct "arguments" 7 10
              [.token "(" 7 8, .construct "number" 8 9 [], .token ")" 9 10]],
          .token ";" 10 11],
      .construct "comment" 12 15 []]

/-- Every character of the text but its blanks is in a region. -/
theorem gaps_blank_call :
    HoldsStatements callText placedCall ∧ LiesWithin callText placedCall ∧
      ∃ result, classify .default (fun _ => callTree) callText = .ok result ∧
        ∀ p c, callText[p]? = some c → isBlank c = false →
          ∃ region ∈ result.regions, region.Covers p := by
  have hplace : Document.place (SourceText.ofText callText) callTree = .ok placedCall := by rfl
  have hstatements : HoldsStatements callText placedCall := by decide +kernel
  have hwithin : LiesWithin callText placedCall := by decide +kernel
  obtain ⟨hexists, hcovers⟩ :=
    gaps_blank .default (fun _ => callTree) callText placedCall hplace hstatements
  obtain ⟨result, hresult⟩ := hexists hwithin
  exact ⟨hstatements, hwithin, result, hresult, hcovers result hresult⟩

end SourceLayers
