/-
Rules on a text with blanks in front of it:

* `Reading.behind`, `Step.shift`, `Trace.shift`: the reading of that text, and steps and walks with
  their candidates moved along;
* `bracketMarks_shift`, `annotationMarks_shift` and their like: marks that several rules share;
* `openingTag_shift`, `call_shift` and their like: the answer of a rule at a moved node is its moved
  answer. Closing tags and operands that are not null must not end at the start of the text
  (`closingTag_shift`, `nonNull?_shift`);
* `defaultStep_shift`: the same where no rule takes a node.
-/
import Mathlib.Tactic
import SourceLayers.Proofs.Shift

namespace SourceLayers

/-- A step with its candidates moved by `k`. -/
def Step.shift (k : Nat) (step : Step) : Step :=
  { step with emitted := step.emitted.map (Candidate.shift k) }

/-- The record of a walk over a moved tree. -/
def Trace.shift (k : Nat) (trace : Trace) : Trace :=
  { visited := trace.visited.map (Site.shift k)
    emitted := trace.emitted.map (Candidate.shift k)
    enums := trace.enums }

/-- The same reading with blanks in front of the text. -/
def Reading.behind (blanks : List Char) (reading : Reading) : Reading :=
  { reading with text := blanks ++ reading.text }

variable {k : Nat} {blanks : List Char} {reading : Reading}

namespace Step

@[simp] lemma shift_through (node : Node) (emitted : List Candidate) :
    (through node emitted).shift k =
      through (node.shift k) (emitted.map (Candidate.shift k)) := by
  rw [through, through, enterAll, enterAll, Node.content_shift, List.map_map]
  rfl

@[simp] lemma shift_stop (emitted : List Candidate) :
    (stop emitted).shift k = stop (emitted.map (Candidate.shift k)) := rfl

end Step

namespace Reading

@[simp] lemma vocabulary_behind : (reading.behind blanks).vocabulary = reading.vocabulary := rfl

@[simp] lemma text_behind : (reading.behind blanks).text = blanks ++ reading.text := rfl

@[simp] lemma textOf_shift (node : Node) :
    (reading.behind blanks).textOf (node.shift blanks.length) = reading.textOf node := by
  rw [textOf, textOf, Node.start_shift, Node.stop_shift, text_behind, cut_shift]

@[simp] lemma nameOf_shift (node : Node) :
    (reading.behind blanks).nameOf (node.shift blanks.length) = reading.nameOf node := by
  rw [nameOf, nameOf, textOf_shift]

end Reading

/-! ### Marks that several rules share -/

lemma flatMap_shift {f g : Node → List Candidate} (nodes : List Node)
    (h : ∀ node, g (node.shift k) = (f node).map (Candidate.shift k)) :
    (nodes.map (Node.shift k)).flatMap g = (nodes.flatMap f).map (Candidate.shift k) := by
  rw [List.flatMap_map, List.map_flatMap]
  simp only [h]

@[simp] lemma modifierMarks_shift (node : Node) :
    modifierMarks (node.shift k) = (modifierMarks node).map (Candidate.shift k) := by
  rw [modifierMarks, Node.ofKinds_shift]
  exact flatMap_shift _ fun modifier => mark_shift modifier .typescript

@[simp] lemma annotationMarks_shift (node : Node) (typeNode : Option Node) :
    annotationMarks (node.shift k) (typeNode.map (Node.shift k)) =
      (annotationMarks node typeNode).map (Candidate.shift k) := by
  cases typeNode with
  | none => rfl
  | some typeNode =>
      simp only [annotationMarks, Option.map_some, Node.token?_shift, Node.start_shift,
        Node.stop_shift]
      cases node.token? "?" with
      | none => exact claim_natCast_shift _ _ _
      | some optional =>
          simp only [Option.map_some, Node.start_shift]
          rw [← Nat.cast_min, ← Nat.cast_min, Nat.add_min_add_right, claim_natCast_shift]

@[simp] lemma returnMarks_shift (node : Node) :
    returnMarks (node.shift k) = (returnMarks node).map (Candidate.shift k) := by
  rw [returnMarks, returnMarks, Node.field?_shift]
  cases node.field? "return_type" with
  | none => rfl
  | some type => exact mark_shift type .typescript

namespace Reading

lemma bracketMarks_shift (hblank : isBlankText blanks = true) (list : Option Node) :
    (reading.behind blanks).bracketMarks (list.map (Node.shift blanks.length)) =
      (reading.bracketMarks list).map (Candidate.shift blanks.length) := by
  rw [bracketMarks, bracketMarks]
  cases list with
  | none => rfl
  | some list =>
      simp only [Option.map_some, Option.bind_some, Node.content_shift, List.head?_map]
      cases list.content.head? with
      | none => rfl
      | some entry =>
          simp only [Option.map_some, Node.start_shift, text_behind, bracketRange?_shift hblank]
          cases bracketRange? reading.text entry.start with
          | none => rfl
          | some range => exact claim_natCast_shift _ _ _

/-! ### Markup -/

@[simp] lemma isNamespacedTag_shift (name : Node) :
    (reading.behind blanks).isNamespacedTag (name.shift blanks.length) =
      reading.isNamespacedTag name := by
  rw [isNamespacedTag, isNamespacedTag, Node.kind_shift, Node.content_shift]
  cases name.content with
  | nil => rfl
  | cons first rest =>
      simp only [List.map_cons, Node.kind_shift, nameOf_shift, vocabulary_behind]

lemma bodyFates_shift (nodes : List Node) :
    bodyFates (nodes.map (Node.shift k)) = bodyFates nodes := by
  induction nodes with
  | nil => rfl
  | cons child rest ih =>
      rw [List.map_cons, bodyFates, bodyFates, ih, List.map_map]
      simp only [Node.kind_shift, Function.comp_def]

lemma genericArrow?_shift (node : Node) :
    (reading.behind blanks).genericArrow? (node.shift blanks.length) =
      (reading.genericArrow? node).map (Step.shift blanks.length) := by
  have hbody : ((node.content.map (Node.shift blanks.length)).filter fun child =>
      !elementTagKinds.contains child.kind) =
      (node.content.filter fun child => !elementTagKinds.contains child.kind).map
        (Node.shift blanks.length) := by
    rw [List.filter_map]
    simp only [Function.comp_def, Node.kind_shift]
  rw [genericArrow?, genericArrow?, Node.field?_shift]
  cases node.field? "open_tag" with
  | none => rfl
  | some tag =>
      simp only [Option.map_some, bind, Option.bind_some, Node.kind_shift, Node.field?_shift,
        Node.fields_shift, Node.content_shift, hbody, List.isEmpty_map, Option.map_bind,
        Function.comp_def, Option.bind_map, List.head?_map, List.getElem?_map, Node.stop_shift,
        Node.start_shift]
      -- the text is read up to the second child of the body, or to the end of the element
      generalize (node.content.filter fun child => !elementTagKinds.contains child.kind) = body
      cases body[1]? with
      | none =>
          simp only [Option.map_none, text_behind, cut_shift, claim_natCast_shift,
            bodyFates_shift, Step.shift, List.map_append]
      | some next =>
          simp only [Option.map_some, Node.start_shift, text_behind, cut_shift,
            claim_natCast_shift, bodyFates_shift, Step.shift, List.map_append]

/-- The closing mark is looked for in the last characters of a tag. These are no blanks, so a tag
that is too short for it has none in the moved text either. -/
lemma tagEnd_shift (hblank : isBlankText blanks = true) (node : Node) :
    (reading.behind blanks).tagEnd (node.shift blanks.length) =
      (reading.tagEnd node).map (Candidate.shift blanks.length) := by
  rw [tagEnd, tagEnd, Node.kind_shift, Node.stop_shift, text_behind,
    apply_ite (List.map (Candidate.shift blanks.length))]
  split
  · exact claim_mark_shift hblank (List.cons_ne_nil '/' ['>']) (by decide) node.stop .jsx
  · exact claim_mark_shift hblank (List.cons_ne_nil '>' []) (by decide) node.stop .jsx

lemma openingTag_shift (hblank : isBlankText blanks = true) (node : Node) :
    (reading.behind blanks).openingTag (node.shift blanks.length) =
      (reading.openingTag node).shift blanks.length := by
  rw [openingTag, openingTag, Node.field?_shift]
  cases node.field? "name" with
  | none =>
      simp only [Option.map_none, Node.start_shift, Node.stop_shift, claim_natCast_shift,
        Step.shift_stop]
  | some name =>
      simp only [Option.map_some, isNamespacedTag_shift, Node.start_shift, Node.stop_shift,
        mark_shift, claim_natCast_shift, claim_past_shift, Node.field?_shift,
        bracketMarks_shift hblank, tagEnd_shift hblank, Step.shift_through, List.map_append,
        apply_ite (List.map (Candidate.shift blanks.length))]

/-- The last character of a closing tag is claimed without a look at it. -/
lemma closingTag_shift {node : Node} (hstop : 0 < node.stop) :
    (reading.behind blanks).closingTag (node.shift blanks.length) =
      (reading.closingTag node).shift blanks.length := by
  have hlast : (1 : Int) ≤ node.stop := by omega
  rw [closingTag, closingTag, Node.field?_shift, Option.filter_map]
  simp only [Function.comp_def, isNamespacedTag_shift]
  cases (node.field? "name").filter reading.isNamespacedTag with
  | none =>
      simp only [Option.map_none, Node.start_shift, Node.stop_shift, claim_natCast_shift,
        Step.shift_stop]
  | some name =>
      simp only [Option.map_some, Node.start_shift, Node.stop_shift, mark_shift,
        claim_past_shift, claim_back_shift hlast, Step.shift_stop, List.map_append]

lemma embedded_shift {node : Node} {step : Step} (h : reading.embedded node = .ok step) :
    (reading.behind blanks).embedded (node.shift blanks.length) =
      .ok (step.shift blanks.length) := by
  rw [embedded] at h ⊢
  simp only [Node.content_shift, List.head?_map, Option.any_map,
    Node.kind_shift, Node.start_shift, Node.stop_shift, text_behind, bind, pure, Except.pure,
    Nat.add_right_comm node.start blanks.length 1] at h ⊢
  split at h
  · rename_i hopens
    simp only [except_bind_eq_ok, Except.ok.injEq] at h
    obtain ⟨spread, hspread, brace, hbrace, rfl⟩ := h
    rw [if_pos hopens, skipBlanksUpTo_shift hspread]
    simp only [Except.bind, closingBrace_shift hbrace, Step.shift_through, List.map_append,
      claim_past_shift]
  · rename_i hplain
    simp only [except_bind_eq_ok, Except.ok.injEq] at h
    obtain ⟨brace, hbrace, rfl⟩ := h
    rw [if_neg hplain, closingBrace_shift hbrace]
    simp only [Except.bind, Step.shift_through, List.map_append, claim_past_shift]

lemma markupAttribute_shift (node : Node) :
    (reading.behind blanks).markupAttribute (node.shift blanks.length) =
      (reading.markupAttribute node).shift blanks.length := by
  rw [markupAttribute, markupAttribute, Node.content_shift]
  rcases node.content with _ | ⟨name, _ | ⟨value, rest⟩⟩
  · rfl
  · simp only [List.map_cons, List.map_nil, vocabulary_behind, nameOf_shift, mark_shift,
      Step.shift_stop]
  · simp only [List.map_cons, vocabulary_behind, nameOf_shift, mark_shift, Node.kind_shift,
      Node.start_shift, Node.stop_shift, claim_natCast_shift]
    split
    · simp only [Step.shift_stop, List.map_append]
    · simp only [Step.shift, List.map_append]

end Reading

/-! ### Declarations and statements -/

lemma decoratorStep_shift (node : Node) :
    decoratorStep (node.shift k) = (decoratorStep node).shift k := by
  simp only [decoratorStep, mark_shift, Step.shift_stop]

lemma recoveredAssignment?_shift (node : Node) :
    recoveredAssignment? (node.shift k) = (recoveredAssignment? node).map (Node.shift k) := by
  have heq : ∀ node : Node,
      recoveredAssignment? node = recoveredAssignmentAmong? node.children := by
    rintro ⟨⟩
    rfl
  induction node using Node.ind with
  | _ node ih =>
      rw [heq, heq node, Node.children_shift]
      generalize node.children = nodes at ih
      induction nodes with
      | nil => rfl
      | cons child rest ihrest =>
          have hchild := ih child List.mem_cons_self
          have hrest := ihrest fun other hother => ih other (List.mem_cons_of_mem _ hother)
          simp only [List.map_cons, recoveredAssignmentAmong?, Node.isContent_shift,
            Node.kind_shift, hchild, hrest]
          split_ifs
          · rfl
          · rfl
          · exact Option.map_or.symm
          · rfl

namespace Reading

lemma usingMarks?_shift (node : Node) (binding : Nat) :
    (reading.behind blanks).usingMarks? (node.shift blanks.length) (binding + blanks.length) =
      (reading.usingMarks? node binding).map (List.map (Candidate.shift blanks.length)) := by
  unfold usingMarks?
  simp only [Node.start_shift, text_behind, cut_shift, Nat.add_right_comm node.start blanks.length,
    claim_natCast_shift]
  split_ifs <;> rfl

lemma usingDeclaration?_shift (node : Node) :
    (reading.behind blanks).usingDeclaration? (node.shift blanks.length) =
      (reading.usingDeclaration? node).map (Step.shift blanks.length) := by
  simp only [usingDeclaration?, Node.content_shift, List.find?_map, Function.comp_def,
    Node.kind_shift, bind, Option.bind_map, Node.start_shift, usingMarks?_shift, mark_shift,
    Option.map_bind, Option.map_some, Step.shift_through, List.map_append]

lemma recoveredUsing?_shift (node : Node) :
    (reading.behind blanks).recoveredUsing? (node.shift blanks.length) =
      (reading.recoveredUsing? node).map (Step.shift blanks.length) := by
  simp only [recoveredUsing?, assignedUsing?, recoveredAssignment?_shift, Node.field?_shift,
    Function.comp_def, bind, Option.bind_map, Node.start_shift, usingMarks?_shift, mark_shift,
    Option.map_bind, Option.map_some, Step.shift_through, List.map_append]

lemma expressionStatement?_shift (node : Node) :
    (reading.behind blanks).expressionStatement? (node.shift blanks.length) =
      (reading.expressionStatement? node).map (Step.shift blanks.length) := by
  rw [expressionStatement?, expressionStatement?, Node.content_shift, recoveredUsing?_shift]
  rcases node.content with _ | ⟨only, _ | ⟨second, rest⟩⟩
  · rfl
  · simp only [List.map_cons, List.map_nil, Node.kind_shift, textOf_shift, vocabulary_behind,
      mark_shift, apply_ite (Option.map (Step.shift blanks.length)), Option.map_some,
      Step.shift_stop]
  · rfl

@[simp] lemma enumName_shift (node : Node) :
    (reading.behind blanks).enumName (node.shift blanks.length) = reading.enumName node := by
  rw [enumName, enumName, Node.field?_shift, Option.map_map]
  simp only [Function.comp_def, nameOf_shift]

lemma enumDeclaration_shift (node : Node) :
    (reading.behind blanks).enumDeclaration (node.shift blanks.length) =
      (reading.enumDeclaration node).shift blanks.length := by
  simp only [enumDeclaration, mark_shift, enumName_shift, Step.shift]

lemma ambient_shift (node : Node) :
    (reading.behind blanks).ambient (node.shift blanks.length) =
      (reading.ambient node).shift blanks.length := by
  simp only [ambient, mark_shift, Node.content_shift, List.filter_map, Function.comp_def,
    Node.kind_shift, List.flatMap_map, enumName_shift, Step.shift]

lemma classDeclaration_shift (hblank : isBlankText blanks = true) (node : Node) :
    (reading.behind blanks).classDeclaration (node.shift blanks.length) =
      (reading.classDeclaration node).shift blanks.length := by
  simp only [classDeclaration, mark_shift, Node.token?_shift, Node.field?_shift,
    bracketMarks_shift hblank, Step.shift_through, List.map_append]
  cases node.token? "abstract" with
  | none => rfl
  | some token => simp only [Option.map_some, mark_shift]

lemma functionDeclaration_shift (hblank : isBlankText blanks = true) (node : Node) :
    (reading.behind blanks).functionDeclaration (node.shift blanks.length) =
      (reading.functionDeclaration node).shift blanks.length := by
  simp only [functionDeclaration, mark_shift, returnMarks_shift, Node.field?_shift,
    bracketMarks_shift hblank, Step.shift_through, List.map_append]

lemma methodDeclaration_shift (hblank : isBlankText blanks = true) (site : Site) :
    (reading.behind blanks).methodDeclaration (site.shift blanks.length) =
      (reading.methodDeclaration site).shift blanks.length := by
  simp only [methodDeclaration, Site.node_shift, Site.parent_shift, Node.kind_shift,
    Option.any_map, mark_shift, modifierMarks_shift, returnMarks_shift,
    Node.field?_shift, bracketMarks_shift hblank, Step.shift_through, List.map_append,
    apply_ite (List.map (Candidate.shift blanks.length)), List.map_nil]

/-! ### Types -/

lemma baseMarks_shift (hblank : isBlankText blanks = true) (name : Node) (arguments : Option Node) :
    (reading.behind blanks).baseMarks (name.shift blanks.length)
        (arguments.map (Node.shift blanks.length)) =
      (reading.baseMarks name arguments).map (Candidate.shift blanks.length) := by
  simp only [baseMarks, Node.kind_shift, vocabulary_behind, nameOf_shift, mark_shift,
    bracketMarks_shift hblank, List.map_append,
    apply_ite (List.map (Candidate.shift blanks.length)), List.map_nil]

lemma heritagePlan_shift (items : List Node) :
    heritagePlan (items.map (Node.shift k)) =
      ((heritagePlan items).1.map fun base => (base.1.shift k, base.2.map (Node.shift k)),
        (heritagePlan items).2) := by
  fun_induction heritagePlan items with
  | case1 => rfl
  | case2 item rest hkind ih =>
      rw [List.map_cons, heritagePlan.eq_def]
      simp only [Node.kind_shift, if_pos hkind, ih]
  | case3 item rest hkind hgeneric ih =>
      rw [List.map_cons, heritagePlan.eq_def]
      simp only [Node.kind_shift, if_neg hkind, if_pos hgeneric, ih, Node.field?_shift]
      cases item.field? "name" <;> rfl
  | case4 item hkind hgeneric =>
      rw [List.map_cons, List.map_nil, heritagePlan, Node.kind_shift, if_neg hkind,
        if_neg hgeneric]
      rfl
  | case5 item hkind hgeneric following others harguments ih =>
      rw [List.map_cons, List.map_cons, heritagePlan, Node.kind_shift, if_neg hkind,
        if_neg hgeneric]
      simp only [Node.kind_shift, if_pos harguments, ih]
      rfl
  | case6 item hkind hgeneric following others harguments ih =>
      rw [List.map_cons] at ih
      rw [List.map_cons, List.map_cons, heritagePlan, Node.kind_shift, if_neg hkind,
        if_neg hgeneric]
      simp only [Node.kind_shift, if_neg harguments, ih]
      rfl

lemma heritage_shift (hblank : isBlankText blanks = true) (node : Node) :
    (reading.behind blanks).heritage (node.shift blanks.length) =
      (reading.heritage node).shift blanks.length := by
  simp only [heritage, heritageItems_eq_plan, Node.content_shift, heritagePlan_shift,
    List.flatMap_map, baseMarks_shift hblank, Step.shift, List.map_flatMap]

lemma instantiation?_shift (hblank : isBlankText blanks = true) (node : Node) :
    (reading.behind blanks).instantiation? (node.shift blanks.length) =
      (reading.instantiation? node).map (Step.shift blanks.length) := by
  simp only [instantiation?, Node.content_shift, List.head?_map, bind, Option.bind_map,
    Function.comp_def, Node.field?_shift, baseMarks_shift hblank, Option.map_bind,
    Option.map_some, Step.shift_through]

end Reading

lemma typeOperator?_shift (node : Node) :
    typeOperator? (node.shift k) = (typeOperator? node).map (Step.shift k) := by
  simp only [typeOperator?, Node.content_shift, List.head?_map, bind, Option.bind_map,
    Function.comp_def, mark_shift, Node.stop_shift, claim_natCast_shift, Option.map_bind,
    Option.map_some, Step.shift, List.map_append]

lemma lastWith?_shift (test : Node → Bool) (h : ∀ node : Node, test (node.shift k) = test node)
    (nodes : List Node) :
    lastWith? test (nodes.map (Node.shift k)) =
      (lastWith? test nodes).map fun entry => (entry.1, entry.2.shift k) := by
  rw [lastWith?, lastWith?, List.zipIdx_map, ← List.map_reverse, List.find?_map, Option.map_map,
    Option.map_map]
  simp only [Function.comp_def, Prod.map_fst, h]
  rfl

lemma typeAssertion?_shift (node : Node) :
    typeAssertion? (node.shift k) = (typeAssertion? node).map (Step.shift k) := by
  have hlast := lastWith?_shift (k := k) (fun child => child.kind != "type_arguments")
    (fun child => by rw [Node.kind_shift]) node.content
  simp only [typeAssertion?, Node.content_shift, hlast, bind, Option.bind_map,
    Function.comp_def, mark_shift, Node.start_shift, claim_natCast_shift, Option.map_bind,
    Option.map_some, Step.shift, List.map_append]

/-- The last character of the operation is claimed without a look at it. -/
lemma nonNull?_shift {node : Node} (hstop : 0 < node.stop) :
    nonNull? (node.shift k) = (nonNull? node).map (Step.shift k) := by
  have hlast : (1 : Int) ≤ node.stop := by omega
  simp only [nonNull?, Node.content_shift, List.head?_map, bind, Option.bind_map,
    Function.comp_def, mark_shift, Node.stop_shift, claim_back_shift hlast, Option.map_bind,
    Option.map_some, Step.shift, List.map_append]

lemma typedDeclarator?_shift (node : Node) :
    typedDeclarator? (node.shift k) = (typedDeclarator? node).map (Step.shift k) := by
  rw [typedDeclarator?, typedDeclarator?, Node.field?_shift]
  cases node.field? "type" with
  | none => rfl
  | some typeNode =>
      have hannotation := annotationMarks_shift (k := k) node (some typeNode)
      simp only [Option.map_some] at hannotation
      simp only [Option.map_some, bind, Option.bind_some, mark_shift, hannotation,
        Step.shift_through, List.map_append]

lemma propertySignatureStep_shift (node : Node) :
    propertySignatureStep (node.shift k) = (propertySignatureStep node).shift k := by
  simp only [propertySignatureStep, modifierMarks_shift, Node.field?_shift, annotationMarks_shift,
    Step.shift_through, List.map_append]

lemma typedBindingStep_shift (node : Node) :
    typedBindingStep (node.shift k) = (typedBindingStep node).shift k := by
  simp only [typedBindingStep, mark_shift, modifierMarks_shift, Node.field?_shift,
    annotationMarks_shift, Step.shift_through, List.map_append]

/-! ### Imports and exports -/

@[simp] lemma contentOf_shift (node : Node) (kind : String) :
    contentOf (node.shift k) kind = (contentOf node kind).map (Node.shift k) := by
  simp only [contentOf, Node.content_shift, List.filter_map, Function.comp_def, Node.kind_shift]

lemma importSpecifiers_shift (node : Node) :
    importSpecifiers (node.shift k) = (importSpecifiers node).map (Node.shift k) := by
  simp only [importSpecifiers, contentOf_shift, List.flatMap_map, List.map_flatMap]

lemma exportSpecifiers_shift (node : Node) :
    exportSpecifiers (node.shift k) = (exportSpecifiers node).map (Node.shift k) := by
  simp only [exportSpecifiers, contentOf_shift, List.flatMap_map, List.map_flatMap]

@[simp] lemma boundName?_shift (specifier : Node) :
    boundName? (specifier.shift k) = (boundName? specifier).map (Node.shift k) := by
  rw [boundName?, boundName?, Node.field?_shift, Node.field?_shift, Option.map_or]

namespace Reading

@[simp] lemma isTypeName_shift (node : Node) :
    (reading.behind blanks).isTypeName (node.shift blanks.length) = reading.isTypeName node := by
  rw [isTypeName, isTypeName, nameOf_shift, vocabulary_behind]

lemma typeOnlyMarks_shift (specifiers : List Node) :
    (reading.behind blanks).typeOnlyMarks (specifiers.map (Node.shift blanks.length)) =
      (reading.typeOnlyMarks specifiers).map (Candidate.shift blanks.length) := by
  refine flatMap_shift specifiers fun specifier => ?_
  rw [boundName?_shift]
  cases boundName? specifier with
  | none => rfl
  | some bound =>
      simp only [Option.map_some, isTypeName_shift, mark_shift,
        apply_ite (List.map (Candidate.shift blanks.length)), List.map_nil]

lemma typeSpecifierMarks_shift (specifiers : List Node) :
    (reading.behind blanks).typeSpecifierMarks (specifiers.map (Node.shift blanks.length)) =
      (reading.typeSpecifierMarks specifiers).map (Candidate.shift blanks.length) := by
  rw [typeSpecifierMarks, typeSpecifierMarks, List.filter_map]
  simp only [Function.comp_def, Node.hasToken_shift]
  refine flatMap_shift _ fun specifier => ?_
  rw [boundName?_shift]
  cases boundName? specifier with
  | none => rfl
  | some bound =>
      simp only [Option.map_some, isTypeName_shift, mark_shift, Node.start_shift,
        claim_natCast_shift, List.map_append]

lemma moduleStatement_shift (node : Node) (specifiers : List Node) :
    (reading.behind blanks).moduleStatement (node.shift blanks.length)
        (specifiers.map (Node.shift blanks.length)) =
      (reading.moduleStatement node specifiers).shift blanks.length := by
  simp only [moduleStatement, Node.hasToken_shift, mark_shift, typeOnlyMarks_shift,
    typeSpecifierMarks_shift]
  split
  · simp only [Step.shift_stop, List.map_append]
  · simp only [Step.shift_through, List.map_append]

/-! ### Expressions -/

lemma enumAccess?_shift (enums : NameSet) (node : Node) :
    (reading.behind blanks).enumAccess? enums (node.shift blanks.length) =
      (reading.enumAccess? enums node).map (Step.shift blanks.length) := by
  simp only [enumAccess?, Node.field?_shift, bind, Option.bind_map, Function.comp_def,
    Node.kind_shift, nameOf_shift, mark_shift, Option.map_bind, Option.map_some, Step.shift_stop]

@[simp] lemma componentMarks_shift (first : Node) :
    (reading.behind blanks).componentMarks (first.shift blanks.length) =
      (reading.componentMarks first).map (Candidate.shift blanks.length) := by
  rw [componentMarks, componentMarks, Node.kind_shift, textOf_shift, Node.field?_shift,
    mark_shift]
  cases first.field? "object" with
  | none =>
      simp only [Option.map_none, apply_ite (List.map (Candidate.shift blanks.length)),
        List.map_nil]
  | some target =>
      simp only [Option.map_some, nameOf_shift, vocabulary_behind,
        apply_ite (List.map (Candidate.shift blanks.length)), List.map_nil]

@[simp] lemma keyMarks_shift (properties : Node) :
    (reading.behind blanks).keyMarks (properties.shift blanks.length) =
      (reading.keyMarks properties).map (Candidate.shift blanks.length) := by
  rw [keyMarks, keyMarks, Node.kind_shift, Node.content_shift, List.filter_map,
    apply_ite (List.map (Candidate.shift blanks.length))]
  simp only [Function.comp_def, Node.kind_shift]
  refine ite_congr rfl (fun _ => flatMap_shift _ fun pair => ?_) fun _ => rfl
  rw [Node.field?_shift]
  cases pair.field? "key" with
  | none => rfl
  | some key =>
      simp only [Option.map_some, Node.kind_shift, nameOf_shift, mark_shift,
        apply_ite (List.map (Candidate.shift blanks.length)), List.map_nil]

lemma factoryMarks_shift (arguments : Option Node) :
    (reading.behind blanks).factoryMarks (arguments.map (Node.shift blanks.length)) =
      (reading.factoryMarks arguments).map (Candidate.shift blanks.length) := by
  rw [factoryMarks, factoryMarks, Option.filter_map]
  simp only [Function.comp_def, Node.kind_shift]
  cases arguments.filter fun node => node.kind == "arguments" with
  | none => rfl
  | some node =>
      simp only [Option.map_some, Node.content_shift]
      rcases node.content with _ | ⟨first, _ | ⟨properties, rest⟩⟩
      · rfl
      · exact componentMarks_shift first
      · simp only [List.map_cons, componentMarks_shift, keyMarks_shift, List.map_append]

lemma calleeMarks_shift (node callee : Node) :
    (reading.behind blanks).calleeMarks (node.shift blanks.length)
        (callee.shift blanks.length) =
      (reading.calleeMarks node callee).map (Candidate.shift blanks.length) := by
  unfold calleeMarks
  simp only [textOf_shift, vocabulary_behind, mark_shift, Node.field?_shift, factoryMarks_shift,
    apply_ite (List.map (Candidate.shift blanks.length)), List.map_append]

lemma call_shift (hblank : isBlankText blanks = true) (node : Node) :
    (reading.behind blanks).call (node.shift blanks.length) =
      (reading.call node).shift blanks.length := by
  simp only [call, Node.field?_shift, bracketMarks_shift hblank, mark_shift, Step.shift_through,
    List.map_append]
  cases node.field? "function" with
  | none => rfl
  | some callee => simp only [Option.map_some, calleeMarks_shift]

lemma construction_shift (hblank : isBlankText blanks = true) (node : Node) :
    (reading.behind blanks).construction (node.shift blanks.length) =
      (reading.construction node).shift blanks.length := by
  simp only [construction, mark_shift, Node.field?_shift, bracketMarks_shift hblank,
    Step.shift_through, List.map_append]

end Reading

/-! ### The default step -/

@[simp] lemma isClassName_shift (site : Site) : isClassName (site.shift k) = isClassName site := by
  simp only [isClassName, Site.node_shift, Site.parent_shift, Option.any_map, Node.kind_shift]

@[simp] lemma isDeclaredType_shift (site : Site) :
    isDeclaredType (site.shift k) = isDeclaredType site := by
  simp only [isDeclaredType, Site.node_shift, Site.parent_shift, Site.isNameOfParent_shift,
    Option.any_map, Node.kind_shift]

@[simp] lemma isInnerReference_shift (site : Site) :
    isInnerReference (site.shift k) = isInnerReference site := by
  simp only [isInnerReference, Site.parent_shift, Option.any_map, Node.kind_shift]

namespace Reading

lemma referenceLayer_shift (site : Site) :
    (reading.behind blanks).referenceLayer (site.shift blanks.length) =
      reading.referenceLayer site := by
  have hname : (reading.behind blanks).referenceName (site.node.shift blanks.length) =
      reading.referenceName site.node := by
    rw [referenceName, referenceName, Node.kind_shift, Node.field?_shift, textOf_shift]
    cases site.node.field? "name" with
    | none => rfl
    | some name => simp only [Option.map_some, textOf_shift]
  rw [referenceLayer, referenceLayer, isClassName_shift, isDeclaredType_shift,
    isInnerReference_shift, Site.node_shift, hname, vocabulary_behind]

lemma defaultStep_shift (site : Site) :
    (reading.behind blanks).defaultStep (site.shift blanks.length) =
      (reading.defaultStep site).shift blanks.length := by
  have hlayer : (reading.behind blanks).defaultLayer? (site.shift blanks.length) =
      reading.defaultLayer? site := by
    unfold defaultLayer?
    simp only [Site.node_shift, Node.kind_shift, referenceLayer_shift, nameOf_shift,
      vocabulary_behind]
  rw [defaultStep, defaultStep, hlayer, Site.node_shift, Step.shift_through]
  cases reading.defaultLayer? site with
  | none => rfl
  | some layer => simp only [mark_shift]

end Reading

end SourceLayers
