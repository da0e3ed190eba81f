/-
Callees of the library:

* `dotted`, `IsPath`: identifiers with points between them. Up to its first point a path is an
  identifier (`takeWhile_dotted`), and it holds nothing but identifiers and points
  (`parenthesis_not_mem_dotted`);
* `Vocabulary.Names`: the names that a callee of the library may have;
* `names_of_isNamespaced`: a path that begins with the namespace of the library is one of them;
* `Step.MarksCallee`, `call_marksCallee_iff`: a call marks its callee if that has such a name, or
  only begins like one.

Main statement: `callee_named`, that among paths the callees that are marked are those of the
library.
-/
import Mathlib.Tactic
import SourceLayers.Proofs.Coverage
import SourceLayers.Proofs.Evidence
import SourceLayers.Proofs.Superposition

namespace SourceLayers

/-! ### Paths -/

/-- Identifiers with points between them. -/
def dotted (first : Identifier) (rest : List Identifier) : List Char :=
  first.val.toList ++ rest.flatMap fun next => '.' :: next.val.toList

lemma dotted_cons (first next : Identifier) (rest : List Identifier) :
    dotted first (next :: rest) = first.val.toList ++ '.' :: dotted next rest := by
  rw [dotted, dotted, List.flatMap_cons, List.cons_append]

/-- A name is an identifier, or several of them with points between them. -/
def IsPath (name : List Char) : Prop :=
  ∃ first rest, name = dotted first rest

/-- What may not stand in an identifier does not. -/
lemma not_mem_identifier (identifier : Identifier) {c : Char}
    (hc : isIdentifierContinue c = false) : c ∉ identifier.val.toList := by
  intro hmem
  rw [isIdentifierContinue_of_mem identifier.property c hmem] at hc
  cases hc

lemma point_not_mem_identifier (identifier : Identifier) : '.' ∉ identifier.val.toList :=
  not_mem_identifier identifier (by decide +kernel)

/-- A path has no parenthesis. -/
lemma parenthesis_not_mem_dotted (first : Identifier) (rest : List Identifier) :
    '(' ∉ dotted first rest := by
  have hidentifier : ∀ identifier : Identifier, '(' ∉ identifier.val.toList := fun identifier =>
    not_mem_identifier identifier (by decide +kernel)
  simp only [dotted, List.mem_append, List.mem_flatMap, List.mem_cons, not_or, not_exists, not_and]
  exact ⟨hidentifier first, fun next _ => ⟨by decide, hidentifier next⟩⟩

/-- Up to its first point a path is its first identifier. -/
lemma takeWhile_dotted (first : Identifier) (rest : List Char) :
    (first.val.toList ++ '.' :: rest).takeWhile (· != '.') = first.val.toList := by
  rw [List.takeWhile_append_of_pos]
  · simp
  · intro c hc
    rw [bne_iff_ne]
    rintro rfl
    exact point_not_mem_identifier first hc

/-! ### Names of the library -/

namespace Vocabulary

/-- The names that a callee of the library may have: that of a hook, of a utility or of the element
factory, or a path in the namespace of the library. -/
def Names (vocabulary : Vocabulary) (name : List Char) : Prop :=
  String.ofList name ∈ vocabulary.hooks ∨ String.ofList name ∈ vocabulary.utilities ∨
    name = vocabulary.elementFactory.toList ∨
      ∃ next rest, name = dotted vocabulary.library (next :: rest)

variable {vocabulary : Vocabulary} {name : List Char}

lemma isNamespaced_iff :
    vocabulary.isNamespaced name = true ↔
      ∃ rest, name = vocabulary.library.val.toList ++ '.' :: rest := by
  rw [isNamespaced, List.isPrefixOf_iff_prefix]
  constructor
  · rintro ⟨rest, rfl⟩
    exact ⟨rest, by simp⟩
  · rintro ⟨rest, rfl⟩
    exact ⟨rest, by simp⟩

/-- A path that begins with the namespace of the library lies in it. -/
lemma names_of_isNamespaced (h : vocabulary.isNamespaced name = true) (hpath : IsPath name) :
    vocabulary.Names name := by
  obtain ⟨tail, htail⟩ := isNamespaced_iff.mp h
  obtain ⟨first, rest, rfl⟩ := hpath
  cases rest with
  | nil =>
      -- a single identifier has no point
      have hmem : '.' ∈ dotted first [] := by simp [htail]
      rw [dotted, List.flatMap_nil, List.append_nil] at hmem
      exact absurd hmem (point_not_mem_identifier first)
  | cons next rest =>
      have hfirst : first.val.toList = vocabulary.library.val.toList := by
        rw [← takeWhile_dotted first (dotted next rest), ← dotted_cons, htail, takeWhile_dotted]
      refine Or.inr (Or.inr (Or.inr ⟨next, rest, ?_⟩))
      rw [dotted, dotted, hfirst]

/-- A name by which a callee is taken for one of the library: one of its names, or any text that
begins with its namespace and a point. -/
def Takes (vocabulary : Vocabulary) (name : List Char) : Prop :=
  vocabulary.Names name ∨ vocabulary.isNamespaced name = true

/-- Among paths only the names of the library are taken. -/
lemma takes_iff_names (hpath : IsPath name) : vocabulary.Takes name ↔ vocabulary.Names name :=
  ⟨fun h => h.elim id fun hnamespaced => names_of_isNamespaced hnamespaced hpath, Or.inl⟩

lemma takes_of_isHookCall (h : vocabulary.isHookCall name = true) : vocabulary.Takes name := by
  rw [isHookCall] at h
  rcases Bool.or_eq_true_iff.mp h with hhook | hmarked
  · exact Or.inl (Or.inl (NameSet.contains_iff.mp hhook))
  · obtain ⟨rest, rfl⟩ := List.isPrefixOf_iff_prefix.mp (Bool.and_eq_true_iff.mp hmarked).1
    refine Or.inr (isNamespaced_iff.mpr ⟨"use".toList ++ rest, ?_⟩)
    rw [List.append_assoc]
    rfl

lemma takes_of_utility (h : vocabulary.utilities.contains (String.ofList name) = true) :
    vocabulary.Takes name :=
  Or.inl (Or.inr (Or.inl (NameSet.contains_iff.mp h)))

lemma takes_of_isElementFactory (h : vocabulary.isElementFactory name = true) :
    vocabulary.Takes name := by
  rw [isElementFactory, Bool.or_eq_true, beq_iff_eq, beq_iff_eq] at h
  rcases h with heq | heq
  · exact Or.inl (Or.inr (Or.inr (Or.inl heq)))
  · exact Or.inr (isNamespaced_iff.mpr ⟨_, heq⟩)

/-- Whatever is taken passes one of the tests that a call makes. -/
lemma takes_cases (h : vocabulary.Takes name) :
    vocabulary.isHookCall name = true ∨
      vocabulary.utilities.contains (String.ofList name) = true ∨
      vocabulary.isElementFactory name = true ∨ vocabulary.isNamespaced name = true := by
  rcases h with (hhook | hutility | rfl | ⟨next, rest, rfl⟩) | hnamespaced
  · exact Or.inl (by rw [isHookCall, NameSet.contains_iff.mpr hhook, Bool.true_or])
  · exact Or.inr (Or.inl (NameSet.contains_iff.mpr hutility))
  · exact Or.inr (Or.inr (Or.inl (by rw [isElementFactory, beq_self_eq_true, Bool.true_or])))
  · exact Or.inr (Or.inr (Or.inr (isNamespaced_iff.mpr ⟨_, dotted_cons _ next rest⟩)))
  · exact Or.inr (Or.inr (Or.inr hnamespaced))

end Vocabulary

/-! ### The callee of a call -/

/-- A step emits a candidate of the library on the bounds of a callee. -/
def Step.MarksCallee (step : Step) (callee : Node) : Prop :=
  ∃ c ∈ step.emitted, c.start = callee.start ∧ c.stop = callee.stop ∧ c.layer = .react

variable {reading : Reading} {node callee : Node}

/-- The name by which a callee is compared. -/
def Reading.calleeName (reading : Reading) (callee : Node) : List Char :=
  withoutBlanks (reading.textOf callee)

/-- Candidates of the library come from a call only if its callee is taken for one. -/
lemma backed_calleeMarks :
    Backed (reading.vocabulary.Takes (reading.calleeName callee))
      (reading.calleeMarks node callee) := by
  rw [Reading.calleeMarks]
  refine backed_ite (fun h => ?_) (backed_ite (fun h => Vocabulary.takes_of_isElementFactory h)
    (backed_ite (fun h => Or.inr h) (backed_mark (by decide))))
  exact (Bool.or_eq_true_iff.mp h).elim Vocabulary.takes_of_isHookCall Vocabulary.takes_of_utility

/-- A callee that is taken for one of the library is marked. -/
lemma mark_subset_calleeMarks (h : reading.vocabulary.Takes (reading.calleeName callee)) :
    ∀ c ∈ mark callee .react, c ∈ reading.calleeMarks node callee := by
  intro c hc
  have hcases := Vocabulary.takes_cases h
  rw [Reading.calleeMarks]
  split_ifs with hhook hfactory hnamespaced
  · exact List.mem_append_left _ hc
  · exact List.mem_append_left _ hc
  · exact List.mem_append_left _ hc
  · -- one of the three tests succeeds
    simp only [Bool.or_eq_true, not_or] at hhook
    rcases hcases with h | h | h | h
    · exact absurd h hhook.1
    · exact absurd h hhook.2
    · exact absurd h hfactory
    · exact absurd h hnamespaced

/-- **Which callees are marked**: those that hold something and have a name that is taken. -/
lemma call_marksCallee_iff (h : node.field? "function" = some callee) :
    (reading.call node).MarksCallee callee ↔
      callee.start < callee.stop ∧ reading.vocabulary.Takes (reading.calleeName callee) := by
  have hemitted : (reading.call node).emitted =
      reading.bracketMarks (node.field? "type_arguments") ++ reading.calleeMarks node callee := by
    simp only [Reading.call, h, Step.through]
  rw [Step.MarksCallee, hemitted]
  constructor
  · rintro ⟨c, hc, hstart, hstop, hlayer⟩
    have hbacked : Backed (reading.vocabulary.Takes (reading.calleeName callee))
        (reading.bracketMarks (node.field? "type_arguments") ++
          reading.calleeMarks node callee) :=
      backed_append.mpr ⟨backed_bracketMarks _, backed_calleeMarks⟩
    exact ⟨hstart ▸ hstop ▸ c.start_lt_stop, hbacked c hc hlayer⟩
  · rintro ⟨hlt, htakes⟩
    let c : Candidate := ⟨⟨callee.start, callee.stop, hlt⟩, .react, Layer.react.priority⟩
    have hc : c ∈ mark callee .react := mem_mark.mpr ⟨rfl, rfl, rfl, rfl⟩
    exact ⟨c, List.mem_append_right _ (mark_subset_calleeMarks htakes c hc), rfl, rfl, rfl⟩

/-- The step at a call. -/
lemma visit_call {enums : NameSet} {site : Site} (hkind : site.node.kind = "call_expression") :
    reading.visit enums site = .ok (reading.call site.node) := by
  have hrule : Rule.ofKind? "call_expression" = some .call := by decide +kernel
  rw [Reading.visit, hkind, hrule]
  rfl

/-- A callee whose name is a path has no parenthesis in it. -/
lemma getElem?_ne_parenthesis (hpath : IsPath (reading.calleeName callee)) {p : Nat}
    (hspans : callee.Spans p) : reading.text[p]? ≠ some '(' := by
  intro hget
  obtain ⟨first, rest, hname⟩ := hpath
  obtain ⟨hfirst, hlast⟩ := hspans
  have hmem : '(' ∈ reading.textOf callee := by
    refine List.mem_of_getElem? (i := p - callee.start) ?_
    rw [Reading.textOf, cut, List.getElem?_take_of_lt (by omega), List.getElem?_drop]
    rwa [Nat.add_sub_cancel' hfirst]
  have hkept : '(' ∈ reading.calleeName callee := List.mem_filter.mpr ⟨hmem, by decide⟩
  rw [hname] at hkept
  exact parenthesis_not_mem_dotted first rest hkept

/-- **Callees of the library**: for a tree on the boundaries of its text there are a document and a
walk. For whatever document and walk there are, the callee of each visited call is marked exactly if
its name is taken for one of the library; then it is of the library from end to end. Among paths
these are the names of the library and no others, and no arguments lie in such a callee. But
whatever follows on the namespace and a point is taken too, and need not be a path. -/
theorem callee_named (vocabulary : Vocabulary) (parse : List Char → Node) (text : List Char) :
    (OnBoundaries text (parse text) →
      ∃ document trace, Document.ofTree (SourceText.ofText text) (parse text) = .ok document ∧
        document.walk vocabulary NameSet.empty = .ok trace) ∧
    ∀ document trace, Document.ofTree (SourceText.ofText text) (parse text) = .ok document →
      document.walk vocabulary NameSet.empty = .ok trace →
      ∃ result, classify vocabulary parse text = .ok result ∧
        ∀ site ∈ trace.visited, site.node.kind = "call_expression" →
          ∀ callee, site.node.field? "function" = some callee →
          (∀ c ∈ (Reading.call ⟨text, vocabulary⟩ site.node).emitted, c ∈ trace.emitted) ∧
          ((Reading.call ⟨text, vocabulary⟩ site.node).MarksCallee callee ↔
            callee.start < callee.stop ∧
              vocabulary.Takes (Reading.calleeName ⟨text, vocabulary⟩ callee)) ∧
          (IsPath (Reading.calleeName ⟨text, vocabulary⟩ callee) →
            ((Reading.call ⟨text, vocabulary⟩ site.node).MarksCallee callee ↔
              callee.start < callee.stop ∧
                vocabulary.Names (Reading.calleeName ⟨text, vocabulary⟩ callee)) ∧
            ∀ p, callee.Spans p → text[p]? ≠ some '(') ∧
          ((Reading.call ⟨text, vocabulary⟩ site.node).MarksCallee callee →
            isBlankText text = false →
            callee.HeldBy result.regions text.length [.react]) := by
  refine ⟨exists_walk_of_onBoundaries vocabulary parse, ?_⟩
  intro document trace hdocument hwalk
  obtain ⟨result, hresult, hregions⟩ := exists_classify_of_walk hdocument hwalk
  obtain ⟨root, -, rfl⟩ := Document.ofTree_eq_ok_iff.mp hdocument
  refine ⟨result, hresult, fun site hsite hkind callee hcallee => ?_⟩
  have hemitted : ∀ c ∈ (Reading.call ⟨text, vocabulary⟩ site.node).emitted,
      c ∈ trace.emitted := by
    obtain ⟨known, step, hvisit, hemitted, -⟩ :=
      (Reading.walk_eq_ok_iff.mp hwalk).step_of_visited hsite
    rw [visit_call hkind] at hvisit
    cases hvisit
    exact hemitted
  have hmarks : (Reading.call ⟨text, vocabulary⟩ site.node).MarksCallee callee ↔
      callee.start < callee.stop ∧
        vocabulary.Takes (Reading.calleeName ⟨text, vocabulary⟩ callee) :=
    call_marksCallee_iff hcallee
  refine ⟨hemitted, hmarks, fun hpath => ⟨?_, fun p => getElem?_ne_parenthesis hpath⟩, ?_⟩
  · rw [hmarks, Vocabulary.takes_iff_names hpath]
  · rintro ⟨c, hc, hstart, hstop, hlayer⟩ hblank p ⟨hfirst, hlast⟩ hp
    rw [hregions hblank]
    have hheld := heldAt_of_emitted hwalk (hemitted c hc) ⟨hstart ▸ hfirst, hstop ▸ hlast⟩ hp
    rwa [hlayer] at hheld

/-- A call of a utility in the namespace of the library, with a blank before the point and a
character of two octets. -/
def utilityText : List Char :=
  "React .memo(é)".toList

/-- The callee of that call. -/
def utilityCallee : Node :=
  { Node.construct "member_expression" 0 11
      [.construct "identifier" 0 5 [], .token "." 6 7, .construct "property_identifier" 7 11 []]
    with field := some "function" }

/-- The call, whose end is `stop`. -/
def utilityCall (stop : Nat) : Node :=
  .construct "call_expression" 0 stop
    [utilityCallee,
      { Node.construct "arguments" 11 stop
          [.token "(" 11 12, .construct "identifier" 12 (stop - 1) [],
            .token ")" (stop - 1) stop]
        with field := some "arguments" }]

/-- The tree of the text. -/
def utilityTree (stop : Nat) : Node :=
  .construct "program" 0 stop [utilityCall stop]

/-- The callee names a utility of the library, blank and all, and is held from end to end. -/
theorem callee_named_utility :
    OnBoundaries utilityText (utilityTree 15) ∧
      IsPath (Reading.calleeName ⟨utilityText, .default⟩ utilityCallee) ∧
      Vocabulary.default.Names (Reading.calleeName ⟨utilityText, .default⟩ utilityCallee) ∧
      ∃ result, classify .default (fun _ => utilityTree 15) utilityText = .ok result ∧
        utilityCallee.HeldBy result.regions 14 [.react] := by
  have hboundaries : OnBoundaries utilityText (utilityTree 15) := by decide +kernel
  have hblank : isBlankText utilityText = false := by decide +kernel
  let memo : Identifier := ⟨"memo", by decide +kernel⟩
  have hname : Reading.calleeName ⟨utilityText, .default⟩ utilityCallee =
      dotted Vocabulary.default.library [memo] := by decide +kernel
  have hpath : IsPath (Reading.calleeName ⟨utilityText, .default⟩ utilityCallee) := ⟨_, _, hname⟩
  have hnames : Vocabulary.default.Names (Reading.calleeName ⟨utilityText, .default⟩
      utilityCallee) := Or.inr (Or.inr (Or.inr ⟨memo, [], hname⟩))
  obtain ⟨hexists, hnamed⟩ := callee_named .default (fun _ => utilityTree 15) utilityText
  obtain ⟨document, trace, hdocument, hwalk⟩ := hexists hboundaries
  have hplace : Document.ofTree (SourceText.ofText utilityText) (utilityTree 15) =
      .ok (Document.ofPlaced utilityText (utilityTree 14)) := by rfl
  obtain rfl : Document.ofPlaced utilityText (utilityTree 14) = document :=
    Except.ok.inj (hplace.symm.trans hdocument)
  obtain ⟨result, hresult, hvisited⟩ := hnamed _ trace hdocument hwalk
  obtain ⟨site, hsite, hnode⟩ : ∃ site ∈ trace.visited, site.node = utilityCall 14 :=
    mem_visited_of_content hwalk (by decide +kernel) List.mem_cons_self
  have hcallee : site.node.field? "function" = some utilityCallee := by
    rw [hnode]
    rfl
  obtain ⟨-, -, hpaths, hheld⟩ := hvisited site hsite (by rw [hnode]; rfl) _ hcallee
  exact ⟨hboundaries, hpath, hnames, result, hresult,
    hheld ((hpaths hpath).1.mpr ⟨by decide, hnames⟩) hblank⟩

/-- A call of a method on what a hook of the library gives. -/
def chainedText : List Char :=
  "React.useMemo(f).map(g)".toList

/-- The tree of that call. -/
def chainedTree : Node :=
  .construct "program" 0 23
    [.construct "expression_statement" 0 23
      [.construct "call_expression" 0 23
        [{ Node.construct "member_expression" 0 20
              [{ Node.construct "call_expression" 0 16
                  [{ Node.construct "member_expression" 0 13
                        [.construct "identifier" 0 5 [], .token "." 5 6,
                          .construct "property_identifier" 6 13 []]
                      with field := some "function" },
                    { Node.construct "arguments" 13 16
                        [.token "(" 13 14, .construct "identifier" 14 15 [], .token ")" 15 16]
                      with field := some "arguments" }]
                  with field := some "object" },
                .token "." 16 17, .construct "property_identifier" 17 20 []]
            with field := some "function" },
          { Node.construct "arguments" 20 23
              [.token "(" 20 21, .construct "identifier" 21 22 [], .token ")" 22 23]
            with field := some "arguments" }]]]

/-- The outer callee begins like a hook of the library, and so the arguments in it are taken for the
library too. -/
theorem callee_marked_with_arguments :
    OnBoundaries chainedText chainedTree ∧
      ∃ document trace result,
        Document.ofTree (SourceText.ofText chainedText) chainedTree = .ok document ∧
        document.walk .default NameSet.empty = .ok trace ∧
        classify .default (fun _ => chainedTree) chainedText = .ok result ∧
        HasLayer result.regions 14 .react ∧
        ∃ site ∈ trace.visited, site.node.kind = "call_expression" ∧
          ∃ callee, site.node.field? "function" = some callee ∧
            (Reading.call ⟨chainedText, .default⟩ site.node).MarksCallee callee ∧
            ¬ Vocabulary.default.Names (Reading.calleeName ⟨chainedText, .default⟩ callee) ∧
            ∃ inner ∈ trace.visited, inner.node.kind = "arguments" ∧
              callee.start ≤ inner.node.start ∧ inner.node.stop ≤ callee.stop := by
  have hboundaries : OnBoundaries chainedText chainedTree := by decide +kernel
  have hblank : isBlankText chainedText = false := by decide +kernel
  have hdocument : Document.ofTree (SourceText.ofText chainedText) chainedTree =
      .ok (Document.ofPlaced chainedText chainedTree) := by rfl
  have hwithin : ∃ trace ∈ Reading.walkWithin ⟨chainedText, .default⟩ 13 NameSet.empty
      [Site.root chainedTree],
      layerAtLinear (resolve trace.emitted chainedText.length) 14 = some .react ∧
        (∃ inner ∈ trace.visited, inner.node.kind = "arguments" ∧ inner.node.start = 13 ∧
          inner.node.stop = 16) ∧
        ∃ site ∈ trace.visited, site.node.kind = "call_expression" ∧
          ∃ callee ∈ site.node.field? "function", callee.start = 0 ∧ callee.stop = 20 := by
    decide +kernel
  obtain ⟨trace, hwalk, hlayer, ⟨inner, hinner, harguments, hinnerStart, hinnerStop⟩, site, hsite,
    hkind, callee, hcallee, hstart, hstop⟩ := Reading.exists_walk_of_walkWithin hwithin
  obtain ⟨result, hresult, hshown⟩ :=
    exists_classify_showing (fun _ => chainedTree) hblank hdocument hwalk
  have hname : Reading.calleeName ⟨chainedText, .default⟩ callee =
      "React.useMemo(f).map".toList := by
    rw [Reading.calleeName, Reading.textOf, hstart, hstop]
    decide +kernel
  refine ⟨hboundaries, _, trace, result, hdocument, hwalk, hresult,
    hshown 14 _ hlayer, site, hsite, hkind, callee, hcallee, ?_, ?_, inner, hinner, harguments,
    by omega, by omega⟩
  · refine (call_marksCallee_iff hcallee).mpr ⟨by omega, Or.inr ?_⟩
    rw [hname]
    decide +kernel
  · rw [hname]
    rintro (hhook | hutility | hfactory | ⟨next, rest, hpath⟩)
    · exact absurd hhook (by decide +kernel)
    · exact absurd hutility (by decide +kernel)
    · exact absurd hfactory (by decide +kernel)
    · have hmem : '(' ∈ "React.useMemo(f).map".toList := by decide +kernel
      rw [hpath] at hmem
      exact parenthesis_not_mem_dotted _ _ hmem

end SourceLayers
