/-
Classification does not depend on where a text stands:

* `Node.EndsInside`: nodes whose last character is claimed without a look at it do not end at the
  start of the text. There such a claim is dropped, and behind blanks it falls on the last of them;
* `Rule.apply_shift`, `visit_shift`, `Walks.shift`: behind blanks every rule, every step and every
  walk gives what it gave before, moved along;
* `place_shift`: octets are counted from the blanks on, whatever their widths, and so the placed
  tree is moved by the number of blanks;
* `WellTokenised.shift`, `WellTokenised.mem_commentCandidates_shift`: the text behind blanks is well
  tokenised, and so the scan finds the moved comments;
* `resolve_shift`: moved candidates resolve to moved regions, in whatever order they come.

Main statement: `classify_shift`, that blanks in front of a text move its regions and change nothing
else.
-/
import Mathlib.Tactic
import SourceLayers.Proofs.BaseLayer
import SourceLayers.Proofs.CommentScan
import SourceLayers.Proofs.Precedence
import SourceLayers.Proofs.ShiftedRules

namespace SourceLayers

variable {k : Nat} {blanks text : List Char} {reading : Reading} {enums : NameSet} {site : Site}

/-! ### Steps and walks -/

/-- The kinds whose rules claim the last character of a node without a look at it. -/
def lastClaimedKinds : List String :=
  ["non_null_expression", "jsx_closing_element"]

/-- A node of such a kind does not end at the start of the text. -/
def Node.EndsInside (node : Node) : Prop :=
  node.kind ∈ lastClaimedKinds → 0 < node.stop

instance (node : Node) : Decidable node.EndsInside :=
  inferInstanceAs (Decidable (_ → _))

/-- Whatever the rule, its answer at a moved node is its moved answer. -/
lemma Rule.apply_shift (hblank : isBlankText blanks = true) {rule : Rule}
    {answer : Option Step} (hkind : site.node.kind ∈ rule.kinds) (hends : site.node.EndsInside)
    (h : rule.apply reading enums site = .ok answer) :
    rule.apply (reading.behind blanks) enums (site.shift blanks.length) =
      .ok (answer.map (Step.shift blanks.length)) := by
  -- rules that always answer give a step, and the others may decline
  have houtright : ∀ {a b : Step}, b = a.shift blanks.length →
      (.ok (some a) : Except OffsetFault (Option Step)) = .ok answer →
      (.ok (some b) : Except OffsetFault (Option Step)) =
        .ok (answer.map (Step.shift blanks.length)) := by
    rintro a b rfl heq
    cases heq
    rfl
  have hmaybe : ∀ {a b : Option Step}, b = a.map (Step.shift blanks.length) →
      (.ok a : Except OffsetFault (Option Step)) = .ok answer →
      (.ok b : Except OffsetFault (Option Step)) =
        .ok (answer.map (Step.shift blanks.length)) := by
    rintro a b rfl heq
    cases heq
    rfl
  cases rule with
  | element => exact hmaybe (Reading.genericArrow?_shift site.node) h
  | openingTag => exact houtright (Reading.openingTag_shift hblank site.node) h
  | closingTag =>
      have hclosing : site.node.kind = "jsx_closing_element" := List.mem_singleton.mp hkind
      have hstop : 0 < site.node.stop := hends (by rw [hclosing]; decide)
      exact houtright (Reading.closingTag_shift hstop) h
  | embedded =>
      obtain ⟨step, hstep, rfl⟩ := except_map_eq_ok.mp h
      exact except_map_eq_ok.mpr ⟨_, Reading.embedded_shift hstep, rfl⟩
  | markupAttribute => exact houtright (Reading.markupAttribute_shift site.node) h
  | decorator => exact houtright (decoratorStep_shift site.node) h
  | expressionStatement => exact hmaybe (Reading.expressionStatement?_shift site.node) h
  | awaitExpression => exact hmaybe (Reading.recoveredUsing?_shift site.node) h
  | ambient => exact houtright (Reading.ambient_shift site.node) h
  | variableDeclaration => exact hmaybe (Reading.usingDeclaration?_shift site.node) h
  | heritage => exact houtright (Reading.heritage_shift hblank site.node) h
  | instantiation => exact hmaybe (Reading.instantiation?_shift hblank site.node) h
  | typeOperator => exact hmaybe (typeOperator?_shift site.node) h
  | typeAssertion => exact hmaybe (typeAssertion?_shift site.node) h
  | nonNull =>
      have hnonNull : site.node.kind = "non_null_expression" := List.mem_singleton.mp hkind
      have hstop : 0 < site.node.stop := hends (by rw [hnonNull]; decide)
      exact hmaybe (nonNull?_shift hstop) h
  | declarator => exact hmaybe (typedDeclarator?_shift site.node) h
  | typedBinding => exact houtright (typedBindingStep_shift site.node) h
  | propertySignature => exact houtright (propertySignatureStep_shift site.node) h
  | importStatement =>
      rw [Rule.apply, Site.node_shift, importSpecifiers_shift]
      exact houtright (Reading.moduleStatement_shift site.node _) h
  | exportStatement =>
      rw [Rule.apply, Site.node_shift, exportSpecifiers_shift]
      exact houtright (Reading.moduleStatement_shift site.node _) h
  | enumDeclaration => exact houtright (Reading.enumDeclaration_shift site.node) h
  | memberAccess => exact hmaybe (Reading.enumAccess?_shift enums site.node) h
  | call => exact houtright (Reading.call_shift hblank site.node) h
  | construction => exact houtright (Reading.construction_shift hblank site.node) h
  | classDeclaration => exact houtright (Reading.classDeclaration_shift hblank site.node) h
  | functionDeclaration => exact houtright (Reading.functionDeclaration_shift hblank site.node) h
  | methodDeclaration => exact houtright (Reading.methodDeclaration_shift hblank site) h

/-- The step at a moved node is the moved step. -/
lemma visit_shift (hblank : isBlankText blanks = true) {step : Step}
    (hends : site.node.EndsInside) (h : reading.visit enums site = .ok step) :
    (reading.behind blanks).visit enums (site.shift blanks.length) =
      .ok (step.shift blanks.length) := by
  rw [Reading.visit, Site.node_shift, Node.kind_shift]
  rw [Reading.visit] at h
  cases hrule : Rule.ofKind? site.node.kind with
  | none =>
      rw [hrule] at h
      cases h
      exact congrArg Except.ok (Reading.defaultStep_shift site)
  | some rule =>
      rw [hrule] at h
      obtain ⟨answer, hanswer, rfl⟩ := except_map_eq_ok.mp h
      have hkind := (Rule.mem_kinds_of_ofKind? hrule).2
      refine except_map_eq_ok.mpr ⟨_, Rule.apply_shift hblank hkind hends hanswer, ?_⟩
      cases answer with
      | none => exact Reading.defaultStep_shift site
      | some step => rfl

/-- **Walks behind blanks**: the walk over moved sites is the moved walk. -/
lemma Reading.Walks.shift (hblank : isBlankText blanks = true) {stack : List Site}
    {trace : Trace} (h : reading.Walks enums stack trace)
    (hends : ∀ site ∈ stack, site.node.Everywhere Node.EndsInside) :
    (reading.behind blanks).Walks enums (stack.map (Site.shift blanks.length))
      (trace.shift blanks.length) := by
  induction h with
  | done enums => exact Walks.done enums
  | @step enums site stack step rest hvisit hwalk ih =>
      have hsite := hends site List.mem_cons_self
      have hrest : ∀ next ∈ site.descend step.fates ++ stack,
          next.node.Everywhere Node.EndsInside := by
        intro next hnext
        rcases List.mem_append.mp hnext with hbelow | hstack
        · exact hsite.of_mem_descend hbelow
        · exact hends next (List.mem_cons_of_mem _ hstack)
      have hmoved := ih hrest
      rw [List.map_append, ← Site.descend_shift] at hmoved
      have hwhole := Walks.step (visit_shift hblank hsite.self hvisit) hmoved
      rw [Trace.shift, List.map_cons, List.map_append]
      exact hwhole

/-! ### Placing a moved tree -/

lemma octetOffsetOf_shift (blanks text : List Char) (i : Nat) :
    octetOffsetOf (blanks ++ text) (i + blanks.length) =
      octetOffsetOf text i + (encodeUtf8 blanks).length := by
  rw [octetOffsetOf, octetOffsetOf, Nat.add_comm i, List.take_length_add_append, encodeUtf8,
    List.flatMap_append, List.length_append, Nat.add_comm]
  rfl

/-- The map from octets to characters at a moved boundary. -/
lemma charOffset_shift {offset i : Nat} (hboundary : IsBoundary text offset)
    (h : Int.toNat <$> (SourceText.ofText text).charOffset offset = .ok i) :
    Int.toNat <$> (SourceText.ofText (blanks ++ text)).charOffset
        ((offset + (encodeUtf8 blanks).length : Nat) : Int) =
      .ok (i + blanks.length) := by
  obtain ⟨j, hj, rfl⟩ := hboundary
  rw [charOffset_octetOffsetOf hj] at h
  obtain rfl : j = i := Except.ok.inj h
  have hbound : j + blanks.length ≤ (blanks ++ text).length := by
    rw [List.length_append]
    omega
  rw [← octetOffsetOf_shift, charOffset_octetOffsetOf hbound]
  rfl

/-- A tree whose offsets are moved before it is placed is the placed tree, moved. -/
lemma mapOffsets_shift {ε : Type} {f g : Nat → Except ε Nat} {m : Nat} {P : Nat → Prop}
    (hmoved : ∀ offset i, P offset → f offset = .ok i → g (offset + m) = .ok (i + k))
    {tree root : Node} (htree : tree.Everywhere fun node => P node.start ∧ P node.stop)
    (h : tree.mapOffsets f = .ok root) :
    (tree.shift m).mapOffsets g = .ok (root.shift k) := by
  induction tree using Node.ind generalizing root with
  | _ node ih =>
      obtain ⟨⟨hstart, hstop⟩, hchildren⟩ := Node.everywhere_iff.mp htree
      obtain ⟨start, stop, children, hfstart, hfstop, hall, rfl⟩ := mapOffsets_eq_ok_iff.mp h
      have hmovedAll : Node.mapOffsetsAll g (node.children.map (Node.shift m)) =
          .ok (children.map (Node.shift k)) := by
        rw [mapOffsetsAll_eq_mapM, mapM_eq_ok_iff, List.forall₂_map_left_iff,
          List.forall₂_map_right_iff]
        refine hall.imp ?_
        rintro child other ⟨hchild, hother⟩
        exact ih child hchild (hchildren child hchild) hother
      rw [mapOffsets_eq]
      simp only [except_bind_eq_ok, Except.ok.injEq, Node.start_shift, Node.stop_shift,
        Node.children_shift]
      refine ⟨_, hmoved _ _ hstart hfstart, _, hmoved _ _ hstop hfstop, _, hmovedAll, ?_⟩
      rw [Node.shift_eq, Node.shift_eq]

/-- **Placing a moved tree**: behind blanks of whatever widths, a tree moved by their octets is
placed where it was, moved by their number. -/
lemma place_shift (blanks : List Char) {tree root : Node} (hboundaries : OnBoundaries text tree)
    (h : Document.place (SourceText.ofText text) tree = .ok root) :
    Document.place (SourceText.ofText (blanks ++ text))
      (tree.shift (encodeUtf8 blanks).length) = .ok (root.shift blanks.length) :=
  mapOffsets_shift (fun _ _ => charOffset_shift) hboundaries h

/-- Only the start of the text has nothing before it, in octets as in characters. -/
lemma everywhere_endsInside_of_place {tree root : Node} (hboundaries : OnBoundaries text tree)
    (hends : tree.Everywhere Node.EndsInside)
    (h : Document.place (SourceText.ofText text) tree = .ok root) :
    root.Everywhere Node.EndsInside := by
  have hboth : tree.Everywhere fun node => node.EndsInside ∧ IsBoundary text node.stop :=
    fun site hsite => ⟨hends site hsite, (hboundaries site hsite).2⟩
  refine everywhere_of_mapOffsets h hboth ?_
  rintro node other ⟨hinside, i, hi, hoffset⟩ hother hkind
  obtain ⟨start, stop, children, -, hstop, -, rfl⟩ := mapOffsets_eq_ok_iff.mp hother
  have hpos := hinside hkind
  rw [← hoffset, charOffset_octetOffsetOf hi] at hstop
  obtain rfl : i = stop := Except.ok.inj hstop
  cases i with
  | zero =>
      rw [← hoffset, octetOffsetOf_zero] at hpos
      exact hpos
  | succ i => exact Nat.succ_pos i

/-! ### Comments of a moved tree -/

namespace Node

lemma commentNodes_shift (node : Node) :
    (node.shift k).commentNodes = node.commentNodes.map (shift k) := by
  induction node using ind with
  | _ node ih =>
      rw [commentNodes_eq, commentNodes_eq, isComment_shift, children_shift]
      split
      · rfl
      · rw [commentNodesAll_eq_flatMap, commentNodesAll_eq_flatMap, List.flatMap_map,
          List.map_flatMap]
        exact List.flatMap_congr ih

lemma tokenNodes_shift (node : Node) :
    (node.shift k).tokenNodes = node.tokenNodes.map (shift k) := by
  induction node using ind with
  | _ node ih =>
      rw [tokenNodes_eq, tokenNodes_eq, isComment_shift, children_shift, List.isEmpty_map]
      split
      · rfl
      · split
        · rfl
        · rw [tokenNodesAll_eq_flatMap, tokenNodesAll_eq_flatMap, List.flatMap_map,
            List.map_flatMap]
          exact List.flatMap_congr ih

lemma pieces_shift (node : Node) : (node.shift k).pieces = node.pieces.map (shift k) := by
  rw [pieces, pieces, tokenNodes_shift, commentNodes_shift, List.map_append]

end Node

namespace WellTokenised

variable {root : Node}

/-- Behind blanks a well tokenised text is well tokenised. -/
lemma shift (hblank : isBlankText blanks = true) (h : WellTokenised text root) :
    WellTokenised (blanks ++ text) (root.shift blanks.length) := by
  constructor
  · intro node hnode
    rw [Node.pieces_shift] at hnode
    obtain ⟨old, hold, rfl⟩ := List.mem_map.mp hnode
    have hlt := h.nonempty old hold
    rw [Node.start_shift, Node.stop_shift]
    omega
  · rw [Node.pieces_shift, List.pairwise_map]
    refine h.apart.imp fun {a b} hab => ?_
    unfold Node.Apart at hab ⊢
    simp only [Node.start_shift, Node.stop_shift]
    omega
  · intro p hp hnone
    by_cases hlt : p < blanks.length
    · rw [List.getElem_append_left hlt]
      exact isBlank_of_mem hblank (List.getElem_mem hlt)
    · -- what no moved piece spans, no piece spanned before
      rw [List.length_append] at hp
      rw [List.getElem_append_right (by omega)]
      refine h.blank _ (by omega) fun node hnode hspans => ?_
      refine hnone (node.shift blanks.length) ?_ ?_
      · rw [Node.pieces_shift]
        exact List.mem_map_of_mem hnode
      · unfold Node.Spans at hspans ⊢
        rw [Node.start_shift, Node.stop_shift]
        omega

/-- Behind blanks the scan finds the moved comments. -/
lemma mem_commentCandidates_shift (hblank : isBlankText blanks = true)
    (h : WellTokenised text root) {c : Candidate} :
    c ∈ (Document.ofPlaced (blanks ++ text) (root.shift blanks.length)).commentCandidates ↔
      c ∈ (Document.ofPlaced text root).commentCandidates.map (Candidate.shift blanks.length) := by
  rw [(h.shift hblank).mem_commentCandidates_iff, Node.commentNodes_shift]
  simp only [List.mem_map, h.mem_commentCandidates_iff, exists_exists_and_eq_and, mark_shift]
  constructor
  · rintro ⟨node, hnode, old, hold, rfl⟩
    exact ⟨old, ⟨node, hnode, hold⟩, rfl⟩
  · rintro ⟨old, ⟨node, hnode, hold⟩, rfl⟩
    exact ⟨node, hnode, old, hold, rfl⟩

end WellTokenised

/-! ### Moved regions -/

lemma Span.covers_shift {span : Span} {p : Nat} :
    (span.shift k).Covers p ↔ k ≤ p ∧ span.Covers (p - k) := by
  simp only [Span.Covers, Span.shift]
  omega

lemma standard_map_shift {candidates : List Candidate} (h : Standard candidates) :
    Standard (candidates.map (Candidate.shift k)) := by
  intro c hc
  obtain ⟨old, hold, rfl⟩ := List.mem_map.mp hc
  exact h old hold

lemma isTop_shift {candidates : List Candidate} {p : Nat} {layer : Layer} :
    IsTop (candidates.map (Candidate.shift k)) p layer ↔
      k ≤ p ∧ IsTop candidates (p - k) layer := by
  have hcovers : ∀ c : Candidate, (c.shift k).Covers p ↔ k ≤ p ∧ c.Covers (p - k) :=
    fun c => Span.covers_shift
  have hlayer : ∀ c : Candidate, (c.shift k).layer = c.layer := fun _ => rfl
  unfold IsTop
  simp only [List.mem_map, exists_exists_and_eq_and, forall_exists_index, and_imp,
    forall_apply_eq_imp_iff₂, hcovers, hlayer]
  constructor
  · rintro ⟨⟨c, hc, ⟨hle, hcover⟩, hlayer⟩, hmax⟩
    exact ⟨hle, ⟨c, hc, hcover, hlayer⟩, fun d hd hdcover => hmax d hd hle hdcover⟩
  · rintro ⟨hle, ⟨c, hc, hcover, hlayer⟩, hmax⟩
    exact ⟨⟨c, hc, ⟨hle, hcover⟩, hlayer⟩, fun d hd _ hdcover => hmax d hd hdcover⟩

lemma hasLayer_shift {regions : List Region} {p : Nat} {layer : Layer} :
    HasLayer (regions.map (Region.shift k)) p layer ↔
      k ≤ p ∧ HasLayer regions (p - k) layer := by
  have hcovers : ∀ region : Region,
      (region.shift k).Covers p ↔ k ≤ p ∧ region.Covers (p - k) :=
    fun region => Span.covers_shift
  have hlayer : ∀ region : Region, (region.shift k).layer = region.layer := fun _ => rfl
  unfold HasLayer
  simp only [List.mem_map, exists_exists_and_eq_and, hcovers, hlayer]
  constructor
  · rintro ⟨region, hregion, ⟨hle, hcover⟩, hlayer⟩
    exact ⟨hle, region, hregion, hcover, hlayer⟩
  · rintro ⟨hle, region, hregion, hcover, hlayer⟩
    exact ⟨region, hregion, ⟨hle, hcover⟩, hlayer⟩

lemma isChain_map_shift {regions : List Region} (h : regions.IsChain Region.MayPrecede) :
    (regions.map (Region.shift k)).IsChain Region.MayPrecede := by
  refine List.isChain_map_of_isChain _ ?_ h
  rintro a b ⟨hle, hlayers⟩
  refine ⟨?_, ?_⟩
  · exact Nat.add_le_add_right hle k
  · exact fun htouch => hlayers (Nat.add_right_cancel htouch)

/-- **Moved candidates resolve to moved regions**, in whatever order and however often they come. -/
lemma resolve_shift {old new : List Candidate} (hold : Standard old)
    (h : ∀ c, c ∈ new ↔ c ∈ old.map (Candidate.shift k)) (length : Int) :
    resolve new (length + k) = (resolve old length).map (Region.shift k) := by
  have hnew : Standard new := fun c hc => standard_map_shift hold c ((h c).mp hc)
  refine eq_of_hasLayer_iff (isPartition_resolve _ _).chain
    (isChain_map_shift (isPartition_resolve _ _).chain) fun p layer => ?_
  have htop : IsTop new p layer ↔ IsTop (old.map (Candidate.shift k)) p layer :=
    isTop_congr fun c _ => h c
  rw [hasLayer_shift, hasLayer_resolve_iff hold, hasLayer_resolve_iff hnew, htop, isTop_shift]
  constructor
  · rintro ⟨hp, hle, htop⟩
    exact ⟨hle, by omega, htop⟩
  · rintro ⟨hle, hp, htop⟩
    exact ⟨by omega, hle, htop⟩

/-- **Blanks in front of a text**: they move its regions by their number and change nothing else,
whatever the widths of the blanks. The tree lies on the boundaries of the text and is moved by the
octets of the blanks; the text is well tokenised; and the nodes whose last character is claimed
without a look at it do not end at the start of the text. -/
theorem classify_shift (vocabulary : Vocabulary) (blanks text : List Char) (tree root : Node)
    (hblank : isBlankText blanks = true) (hboundaries : OnBoundaries text tree)
    (hplace : Document.place (SourceText.ofText text) tree = .ok root)
    (htokenised : WellTokenised text root) (hends : tree.Everywhere Node.EndsInside) :
    ∃ result moved, classify vocabulary (fun _ => tree) text = .ok result ∧
      classify vocabulary (fun _ => tree.shift (encodeUtf8 blanks).length) (blanks ++ text) =
        .ok moved ∧
      moved.regions = result.regions.map (Region.shift blanks.length) := by
  have hblankText : isBlankText (blanks ++ text) = isBlankText text := by
    rw [isBlankText, List.all_append, ← isBlankText, hblank, Bool.true_and, isBlankText]
  cases htext : isBlankText text with
  | true =>
      rw [classify_of_blank htext, classify_of_blank (hblankText.trans htext)]
      exact ⟨_, _, rfl, rfl, rfl⟩
  | false =>
      obtain ⟨placed, hplaced, hwithin⟩ := exists_place hboundaries
      obtain rfl : placed = root := Except.ok.inj (hplaced.symm.trans hplace)
      have hdocument := Document.ofTree_eq_ok_iff.mpr ⟨placed, hplace, rfl⟩
      have hmovedDocument := Document.ofTree_eq_ok_iff.mpr
        ⟨_, place_shift blanks hboundaries hplace, rfl⟩
      -- the walk over the placed tree, and the same walk behind the blanks
      obtain ⟨trace, hwalk⟩ : ∃ trace, (Document.ofPlaced text placed).walk vocabulary
          NameSet.empty = .ok trace := Document.exists_walk_root vocabulary NameSet.empty hwithin
      have hmovedWalk : (Document.ofPlaced (blanks ++ text) (placed.shift blanks.length)).walk
          vocabulary NameSet.empty = .ok (trace.shift blanks.length) := by
        refine Reading.walk_eq_ok_iff.mpr ((Reading.walk_eq_ok_iff.mp hwalk).shift hblank ?_)
        intro site hsite
        rw [List.mem_singleton.mp hsite]
        exact everywhere_endsInside_of_place hboundaries hends hplace
      obtain ⟨result, hresult, hregions⟩ :=
        @classify_of_walk vocabulary (fun _ => tree) _ _ _ htext hdocument hwalk
      obtain ⟨moved, hmoved, hmovedRegions⟩ :=
        @classify_of_walk vocabulary (fun _ => tree.shift (encodeUtf8 blanks).length) _ _ _
          (hblankText.trans htext) hmovedDocument hmovedWalk
      refine ⟨result, moved, hresult, hmoved, ?_⟩
      rw [hregions, hmovedRegions, List.length_append, Nat.add_comm, Nat.cast_add]
      refine resolve_shift (Document.standard_candidates hwalk) (fun c => ?_) _
      rw [List.map_append, List.mem_append, List.mem_append,
        htokenised.mem_commentCandidates_shift hblank]
      rfl

/-- A call with a type argument, a comment and an operand that is not null. -/
def assertedText : List Char :=
  "f<T>(/*é*/a!)".toList

/-- The tree of the call, whose comment ends at `inner`. -/
def assertedTree (inner : Nat) : Node :=
  .construct "program" 0 (inner + 3)
    [.construct "expression_statement" 0 (inner + 3)
      [.construct "call_expression" 0 (inner + 3)
        [{ Node.construct "identifier" 0 1 [] with field := some "function" },
          { Node.construct "type_arguments" 1 4
              [.token "<" 1 2, .construct "type_identifier" 2 3 [], .token ">" 3 4] with
            field := some "type_arguments" },
          { Node.construct "arguments" 4 (inner + 3)
              [.token "(" 4 5, .construct "comment" 5 inner [],
                .construct "non_null_expression" inner (inner + 2)
                  [.construct "identifier" inner (inner + 1) [],
                    .token "!" (inner + 1) (inner + 2)],
                .token ")" (inner + 2) (inner + 3)] with
            field := some "arguments" }]]]

/-- Blanks of one, two and three octets. -/
def wideBlanks : List Char :=
  "\n\u00A0\u3000".toList

/-- The tree moves by the six octets of the blanks, and the regions by their three characters. -/
theorem classify_shift_asserted :
    isBlankText wideBlanks = true ∧ OnBoundaries assertedText (assertedTree 11) ∧
      Document.place (SourceText.ofText assertedText) (assertedTree 11) = .ok (assertedTree 10) ∧
      WellTokenised assertedText (assertedTree 10) ∧
      (assertedTree 11).Everywhere Node.EndsInside ∧
      ∃ result moved, classify .default (fun _ => assertedTree 11) assertedText = .ok result ∧
        classify .default (fun _ => (assertedTree 11).shift 6) (wideBlanks ++ assertedText) =
          .ok moved ∧
        moved.regions = result.regions.map (Region.shift 3) := by
  have hblank : isBlankText wideBlanks = true := by decide +kernel
  have hboundaries : OnBoundaries assertedText (assertedTree 11) := by decide +kernel
  have hplace : Document.place (SourceText.ofText assertedText) (assertedTree 11) =
      .ok (assertedTree 10) := by rfl
  have htokenised : WellTokenised assertedText (assertedTree 10) := by decide +kernel
  have hends : (assertedTree 11).Everywhere Node.EndsInside := by decide +kernel
  exact ⟨hblank, hboundaries, hplace, htokenised, hends,
    classify_shift .default wideBlanks assertedText (assertedTree 11) (assertedTree 10) hblank
      hboundaries hplace htokenised hends⟩

end SourceLayers
