/-
The route of a walk under different vocabularies:

* `Trace.route`: the visited sites of a walk and the names of enumerations at its end;
* `Classification.outline`: what is counted while a text is classified, without its candidates;
* `visit_fault`: a step that faults under one vocabulary has the same fault under every other;
* `route_walk_eq`: walks over one text take the same route under all vocabularies, since steps agree
  on what they go on to and on what they declare.

Main statement: `route_independent`, that a vocabulary decides about layers and about nothing else.
-/
import Mathlib.Tactic
import SourceLayers.Proofs.Extension
import SourceLayers.Proofs.Recursion

namespace SourceLayers

/-- The visited sites of a walk in order, and the names known at its end. -/
def Trace.route (trace : Trace) : List Site × NameSet :=
  (trace.visited, trace.enums)

/-- What is counted besides candidates: the names of enumerations, the comments, the errors of the
parser and the characters. -/
def Classification.outline (result : Classification) : NameSet × Nat × Nat × Nat :=
  (result.diagnostics.enumNames, result.diagnostics.commentCount,
    result.diagnostics.parseErrorCount, result.textLength)

variable {text : List Char} {enums : NameSet} {site : Site} {fault : OffsetFault}

/-- Only expressions between braces fault, and they read the text alone. -/
lemma Rule.apply_fault (one other : Vocabulary) {rule : Rule}
    (h : rule.apply ⟨text, one⟩ enums site = .error fault) :
    rule.apply ⟨text, other⟩ enums site = .error fault := by
  cases rule with
  | embedded => exact h
  | _ => cases h

lemma visit_fault (one other : Vocabulary)
    (h : Reading.visit ⟨text, one⟩ enums site = .error fault) :
    Reading.visit ⟨text, other⟩ enums site = .error fault := by
  rw [Reading.visit] at h ⊢
  cases hrule : Rule.ofKind? site.node.kind with
  | none =>
      rw [hrule] at h
      cases h
  | some rule =>
      rw [hrule] at h
      exact except_map_eq_error.mpr (Rule.apply_fault one other (except_map_eq_error.mp h))

/-- The route of a walk begins with the site on top of the stack. -/
lemma route_walk_cons (reading : Reading) (enums : NameSet) (site : Site) (stack : List Site) :
    (reading.walk enums (site :: stack)).map Trace.route =
      (reading.visit enums site).bind fun step =>
        ((reading.walk (enums.insertAll step.declared)
          (site.descend step.fates ++ stack)).map Trace.route).map
            fun route => (site :: route.1, route.2) := by
  rw [Reading.walk_cons]
  cases reading.visit enums site with
  | error fault => rfl
  | ok step =>
      simp only [Except.bind]
      cases reading.walk (enums.insertAll step.declared) (site.descend step.fates ++ stack) with
      | error fault => rfl
      | ok rest => rfl

/-- One step: if the rest of the walk takes the same route under both vocabularies, so does the walk
from the site on. -/
lemma route_walk_cons_eq (one other : Vocabulary) {step : Step} {stack : List Site}
    (hvisit : Reading.visit ⟨text, one⟩ enums site = .ok step)
    (hrest : (Reading.walk ⟨text, one⟩ (enums.insertAll step.declared)
        (site.descend step.fates ++ stack)).map Trace.route =
      (Reading.walk ⟨text, other⟩ (enums.insertAll step.declared)
        (site.descend step.fates ++ stack)).map Trace.route) :
    (Reading.walk ⟨text, one⟩ enums (site :: stack)).map Trace.route =
      (Reading.walk ⟨text, other⟩ enums (site :: stack)).map Trace.route := by
  obtain ⟨same, hsame, hagrees⟩ := visit_agrees one other hvisit
  rw [route_walk_cons, route_walk_cons, hvisit, hsame]
  simp only [Except.bind, hagrees.fates, hagrees.declared, hrest]

/-- **One route under all vocabularies**: whatever the stack, the walk over it visits the same sites
and ends with the same names, or has the same fault. -/
lemma route_walk_eq (text : List Char) (one other : Vocabulary) (enums : NameSet)
    (stack : List Site) :
    (Reading.walk ⟨text, one⟩ enums stack).map Trace.route =
      (Reading.walk ⟨text, other⟩ enums stack).map Trace.route := by
  induction enums, stack using walkBy.induct (Reading.visit ⟨text, one⟩) with
  | case1 enums => rw [Reading.walk_nil, Reading.walk_nil]
  | case2 enums site stack fault hvisit =>
      rw [route_walk_cons, route_walk_cons, hvisit, visit_fault one other hvisit]
      rfl
  | case3 enums site stack step hvisit _ _ ih => exact route_walk_cons_eq one other hvisit ih
  | case4 enums site stack step hvisit _ _ ih => exact route_walk_cons_eq one other hvisit ih

/-- The outline of a classification is read off the route of its walk and off the document. -/
lemma outline_classify (document : Document) (vocabulary : Vocabulary) :
    (document.classify vocabulary).map Classification.outline =
      ((document.walk vocabulary NameSet.empty).map Trace.route).map fun route =>
        (route.2, document.commentCandidates.length, document.errorCount,
          document.text.length) := by
  rw [Document.classify]
  cases document.walk vocabulary NameSet.empty with
  | error fault => rfl
  | ok trace => rfl

/-- **The vocabulary decides about layers only**: for a tree on the boundaries of its text there are
a walk and a classification under every vocabulary. Under any two vocabularies the walk over a
document visits the same sites in the same order and ends with the same names of enumerations,
whatever names are known at its start; and a text has the same names of enumerations, the same
number of comments, of errors and of characters in its classification. -/
theorem route_independent (one other : Vocabulary) (enums : NameSet) (parse : List Char → Node)
    (text : List Char) :
    (OnBoundaries text (parse text) → ∀ vocabulary : Vocabulary,
      ∃ document trace result,
        Document.ofTree (SourceText.ofText text) (parse text) = .ok document ∧
          document.walk vocabulary enums = .ok trace ∧
          classify vocabulary parse text = .ok result) ∧
    (∀ document : Document,
      (document.walk one enums).map Trace.route = (document.walk other enums).map Trace.route) ∧
    (classify one parse text).map Classification.outline =
      (classify other parse text).map Classification.outline := by
  refine ⟨fun hboundaries vocabulary => exists_run vocabulary enums parse hboundaries,
    fun document => route_walk_eq document.text one other enums _, ?_⟩
  cases hblank : isBlankText text with
  | true => rw [classify_of_blank hblank, classify_of_blank hblank]
  | false =>
      rw [classify, classify, hblank]
      cases Document.ofTree (SourceText.ofText text) (parse text) with
      | error fault => rfl
      | ok document =>
          show (document.classify one).map _ = (document.classify other).map _
          rw [outline_classify, outline_classify]
          exact congrArg _ (route_walk_eq document.text one other NameSet.empty _)

/-- The vocabulary of another library, without hooks and directives. -/
def otherVocabulary : Vocabulary :=
  { Vocabulary.default with
    hooks := NameSet.empty
    directives := NameSet.empty
    library := ⟨"Other", by decide⟩ }

/-- A directive, an enumeration, and a call in the namespace of the library with a member of the
enumeration. -/
def directedText : List Char :=
  "\"use client\";enum é \x7b\x7d React.f(é.a)".toList

/-- The tree of that text. -/
def directedTree : Node :=
  .construct "program" 0 37
    [.construct "expression_statement" 0 13 [.construct "string" 0 12 [], .token ";" 12 13],
      .construct "enum_declaration" 13 23
        [.token "enum" 13 17, { Node.construct "identifier" 18 20 [] with field := some "name" },
          .construct "enum_body" 21 23 []],
      .construct "expression_statement" 24 37
        [.construct "call_expression" 24 37
          [{ Node.construct "member_expression" 24 31
                [{ Node.construct "identifier" 24 29 [] with field := some "object" },
                  .token "." 29 30, .construct "property_identifier" 30 31 []] with
              field := some "function" },
            { Node.construct "arguments" 31 37
                [.token "(" 31 32,
                  .construct "member_expression" 32 36
                    [{ Node.construct "identifier" 32 34 [] with field := some "object" },
                      .token "." 34 35, .construct "property_identifier" 35 36 []],
                  .token ")" 36 37] with
              field := some "arguments" }]]]

/-- Under the vocabulary of the other library the same nodes are visited and the same names are
known, with the same counts at the end. -/
theorem route_independent_directed :
    OnBoundaries directedText directedTree ∧
      ∃ document trace same,
        Document.ofTree (SourceText.ofText directedText) directedTree = .ok document ∧
          document.walk .default NameSet.empty = .ok trace ∧
          document.walk otherVocabulary NameSet.empty = .ok same ∧
          trace.visited = same.visited ∧ trace.enums = same.enums ∧
          (classify .default (fun _ => directedTree) directedText).map Classification.outline =
            (classify otherVocabulary (fun _ => directedTree) directedText).map
              Classification.outline := by
  have hboundaries : OnBoundaries directedText directedTree := by decide +kernel
  obtain ⟨hexists, hroute, houtline⟩ :=
    route_independent .default otherVocabulary NameSet.empty (fun _ => directedTree) directedText
  obtain ⟨document, trace, -, hdocument, hwalk, -⟩ := hexists hboundaries .default
  obtain ⟨document', same, -, hdocument', hwalk', -⟩ := hexists hboundaries otherVocabulary
  obtain rfl : document = document' := Except.ok.inj (hdocument.symm.trans hdocument')
  have hsame := hroute document
  rw [hwalk, hwalk'] at hsame
  obtain ⟨hvisited, henums⟩ := Prod.mk.inj (Except.ok.inj hsame)
  exact ⟨hboundaries, document, trace, same, hdocument, hwalk, hwalk', hvisited, henums, houtline⟩

end SourceLayers
