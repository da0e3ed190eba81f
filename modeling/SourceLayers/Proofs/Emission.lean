/-
What a step emits, and that it is taken:

* `make?_eq_some_iff`, `mem_claim`, `mem_mark`: the candidates on given bounds and on a node;
* `Standard`: candidates at the priorities of their layers;
* `genericArrow?_eq_some`, `usingDeclaration?_eq_some` and their like: the answer of a rule that may
  decline, where it does not;
* `Rule.standard_apply`, `standard_visit`: whatever the rule, a step emits standard candidates;
* `exists_visit`: the step at a node that ends within the text is taken without a fault, although
  rules read the characters around the ends of nodes.
-/
import Mathlib.Tactic
import SourceLayers.Proofs.Outcome
import SourceLayers.Walk

namespace SourceLayers

/-! ### Claims -/

/-- The candidate that is made on given bounds, at the priority of its layer. Candidates begin at
zero or later and are not empty, so bounds that do not are no candidate's. -/
lemma make?_eq_some_iff {start stop : Int} {layer : Layer} {c : Candidate} :
    Candidate.make? start stop layer = some c ↔
      (c.start : Int) = start ∧ (c.stop : Int) = stop ∧ c.layer = layer ∧
        c.priority = layer.priority := by
  rw [Candidate.make?]
  constructor
  · intro h
    split at h
    · cases h
      refine ⟨?_, ?_, rfl, rfl⟩ <;> simp only <;> omega
    · cases h
  · rintro ⟨hstart, hstop, hlayer, hpriority⟩
    have hnonempty := c.start_lt_stop
    rw [dif_pos (by omega), Option.some.injEq]
    obtain ⟨⟨start', stop', hne⟩, layer', priority'⟩ := c
    simp only at hstart hstop hlayer hpriority
    subst hlayer hpriority hstart hstop
    simp

/-- A claim holds the candidate on its bounds. -/
lemma mem_claim {start stop : Int} {layer : Layer} {c : Candidate} :
    c ∈ claim start stop layer ↔
      (c.start : Int) = start ∧ (c.stop : Int) = stop ∧ c.layer = layer ∧
        c.priority = layer.priority := by
  rw [claim, Option.mem_toList, make?_eq_some_iff]

/-- The mark of a node is the candidate on its bounds. -/
lemma mem_mark {node : Node} {layer : Layer} {c : Candidate} :
    c ∈ mark node layer ↔
      c.start = node.start ∧ c.stop = node.stop ∧ c.layer = layer ∧
        c.priority = layer.priority := by
  rw [mark, mem_claim]
  norm_cast

/-- Candidates at the priorities of their layers. -/
def Standard (candidates : List Candidate) : Prop :=
  ∀ c ∈ candidates, c.priority = c.layer.priority

@[simp] lemma standard_nil : Standard [] := by
  simp [Standard]

@[simp] lemma standard_append {xs ys : List Candidate} :
    Standard (xs ++ ys) ↔ Standard xs ∧ Standard ys := by
  simp [Standard, or_imp, forall_and]

@[simp] lemma standard_claim (start stop : Int) (layer : Layer) :
    Standard (claim start stop layer) := by
  intro c hc
  obtain ⟨-, -, hlayer, hpriority⟩ := mem_claim.mp hc
  rw [hlayer, hpriority]

@[simp] lemma standard_mark (node : Node) (layer : Layer) : Standard (mark node layer) :=
  standard_claim _ _ _

lemma standard_flatMap {α : Type} {items : List α} {emit : α → List Candidate}
    (h : ∀ item ∈ items, Standard (emit item)) : Standard (items.flatMap emit) := by
  intro c hc
  obtain ⟨item, hitem, hmem⟩ := List.mem_flatMap.mp hc
  exact h item hitem c hmem

lemma standard_ite {p : Prop} [Decidable p] {xs ys : List Candidate} (hx : Standard xs)
    (hy : Standard ys) : Standard (if p then xs else ys) := by
  split
  · exact hx
  · exact hy

/-! ### Marks that several rules share -/

variable {reading : Reading} {node : Node} {step : Step}

@[simp] lemma standard_bracketMarks (list : Option Node) :
    Standard (reading.bracketMarks list) := by
  rw [Reading.bracketMarks]
  split
  · simp
  · split <;> simp

@[simp] lemma standard_modifierMarks (node : Node) : Standard (modifierMarks node) :=
  standard_flatMap fun _ _ => standard_mark _ _

@[simp] lemma standard_annotationMarks (node : Node) (typeNode : Option Node) :
    Standard (annotationMarks node typeNode) := by
  unfold annotationMarks
  split <;> simp

@[simp] lemma standard_returnMarks (node : Node) : Standard (returnMarks node) := by
  rw [returnMarks]
  split <;> simp

@[simp] lemma standard_baseMarks (name : Node) (arguments : Option Node) :
    Standard (reading.baseMarks name arguments) := by
  rw [Reading.baseMarks]
  exact standard_append.mpr
    ⟨standard_ite (standard_mark _ _) standard_nil, standard_bracketMarks _⟩

/-! ### Answers of rules that may decline -/

lemma genericArrow?_eq_some (h : reading.genericArrow? node = some step) :
    ∃ tag : Node, step =
      { emitted := claim node.start tag.stop .typescript ++ claim tag.stop node.stop .javascript
        fates := bodyFates node.content } := by
  simp only [Reading.genericArrow?, bind, Option.bind_eq_some_iff] at h
  obtain ⟨tag, -, -, -, -, -, -, -, -, -, -, -, -, -, -, -, hstep⟩ := h
  exact ⟨tag, (Option.some.inj hstep).symm⟩

lemma usingMarks?_eq_some {binding : Nat} {keywords : List Candidate}
    (h : reading.usingMarks? node binding = some keywords) :
    ∃ stop : Nat, keywords = claim node.start stop .typescript := by
  unfold Reading.usingMarks? at h
  simp only at h
  split at h
  · exact ⟨_, (Option.some.inj h).symm⟩
  · cases h

lemma usingDeclaration?_eq_some (h : reading.usingDeclaration? node = some step) :
    ∃ stop : Nat, step =
      Step.through node (claim node.start stop .typescript ++ mark node .javascript) := by
  simp only [Reading.usingDeclaration?, bind, Option.bind_eq_some_iff] at h
  obtain ⟨binding, -, keywords, hkeywords, hstep⟩ := h
  obtain ⟨stop, rfl⟩ := usingMarks?_eq_some hkeywords
  exact ⟨stop, (Option.some.inj hstep).symm⟩

lemma recoveredUsing?_eq_some (h : reading.recoveredUsing? node = some step) :
    ∃ stop : Nat, step =
      Step.through node (claim node.start stop .typescript ++ mark node .javascript) := by
  simp only [Reading.recoveredUsing?, Reading.assignedUsing?, bind, Option.bind_eq_some_iff] at h
  obtain ⟨assignment, -, left, -, keywords, hkeywords, hstep⟩ := h
  obtain ⟨stop, rfl⟩ := usingMarks?_eq_some hkeywords
  exact ⟨stop, (Option.some.inj hstep).symm⟩

/-- A statement that is a text alone has one layer, and any other is looked at as an assignment
after recovered keywords. -/
lemma expressionStatement?_eq_some (h : reading.expressionStatement? node = some step) :
    (∃ layer, step = Step.stop (mark node layer)) ∨ reading.recoveredUsing? node = some step := by
  rw [Reading.expressionStatement?] at h
  split at h
  · split at h
    · exact Or.inl ⟨_, (Option.some.inj h).symm⟩
    · exact Or.inr h
  · exact Or.inr h

lemma instantiation?_eq_some (h : reading.instantiation? node = some step) :
    ∃ first : Node, step =
      Step.through node (reading.baseMarks first (node.field? "type_arguments")) := by
  simp only [Reading.instantiation?, bind, Option.bind_eq_some_iff] at h
  obtain ⟨first, -, hstep⟩ := h
  exact ⟨first, (Option.some.inj hstep).symm⟩

lemma typeOperator?_eq_some (h : typeOperator? node = some step) :
    ∃ operand : Node, step =
      { emitted := mark operand .javascript ++ claim operand.stop node.stop .typescript
        fates := Step.enterOnly 0 } := by
  simp only [typeOperator?, bind, Option.bind_eq_some_iff] at h
  obtain ⟨operand, -, hstep⟩ := h
  exact ⟨operand, (Option.some.inj hstep).symm⟩

lemma typeAssertion?_eq_some (h : typeAssertion? node = some step) :
    ∃ (i : Nat) (operand : Node), step =
      { emitted := claim node.start operand.start .typescript ++ mark operand .javascript
        fates := Step.enterOnly i } := by
  simp only [typeAssertion?, bind, Option.bind_eq_some_iff] at h
  obtain ⟨⟨i, operand⟩, -, hstep⟩ := h
  exact ⟨i, operand, (Option.some.inj hstep).symm⟩

lemma nonNull?_eq_some (h : nonNull? node = some step) :
    ∃ operand : Node, step =
      { emitted := mark operand .javascript ++ claim (node.stop - 1 : Int) node.stop .typescript
        fates := Step.enterOnly 0 } := by
  simp only [nonNull?, bind, Option.bind_eq_some_iff] at h
  obtain ⟨operand, -, hstep⟩ := h
  exact ⟨operand, (Option.some.inj hstep).symm⟩

lemma typedDeclarator?_eq_some (h : typedDeclarator? node = some step) :
    ∃ typeNode : Node, step =
      Step.through node (mark node .javascript ++ annotationMarks node (some typeNode)) := by
  simp only [typedDeclarator?, bind, Option.bind_eq_some_iff] at h
  obtain ⟨typeNode, -, hstep⟩ := h
  exact ⟨typeNode, (Option.some.inj hstep).symm⟩

lemma enumAccess?_eq_some {enums : NameSet} (h : reading.enumAccess? enums node = some step) :
    step = Step.stop (mark node .typescript) := by
  simp only [Reading.enumAccess?, bind, Option.bind_eq_some_iff] at h
  obtain ⟨target, -, -, -, -, -, hstep⟩ := h
  exact (Option.some.inj hstep).symm

/-! ### Every step emits standard candidates -/

@[simp] lemma standard_through {emitted : List Candidate} :
    Standard (Step.through node emitted).emitted ↔ Standard emitted := Iff.rfl

@[simp] lemma standard_stop {emitted : List Candidate} :
    Standard (Step.stop emitted).emitted ↔ Standard emitted := Iff.rfl

lemma standard_openingTag (node : Node) : Standard (reading.openingTag node).emitted := by
  have hend : Standard (reading.tagEnd node) := by
    rw [Reading.tagEnd]
    exact standard_ite (standard_ite (standard_claim _ _ _) standard_nil)
      (standard_ite (standard_claim _ _ _) standard_nil)
  rw [Reading.openingTag]
  split
  · simp
  · refine standard_append.mpr ⟨standard_append.mpr ⟨?_, standard_bracketMarks _⟩, hend⟩
    exact standard_ite (by simp) (standard_claim _ _ _)

lemma standard_closingTag (node : Node) : Standard (reading.closingTag node).emitted := by
  rw [Reading.closingTag]
  split <;> simp

lemma standard_markupAttribute (node : Node) :
    Standard (reading.markupAttribute node).emitted := by
  rcases hcontent : node.content with _ | ⟨name, _ | ⟨value, rest⟩⟩
  · simp [Reading.markupAttribute, hcontent]
  · simp [Reading.markupAttribute, hcontent]
  · by_cases hstring : value.kind = "string"
    · simp [Reading.markupAttribute, hcontent, hstring]
    · simp [Reading.markupAttribute, hcontent, hstring]

/-- What a clause of bases does, apart from what is marked: each base with its type arguments, and
the fates of the items. -/
def heritagePlan : List Node → List (Node × Option Node) × List Fate
  | [] => ([], [])
  | item :: rest =>
    if item.kind == "type_arguments" then
      ((heritagePlan rest).1, .skip :: (heritagePlan rest).2)
    else if item.kind == "generic_type" then
      (((item.field? "name").map fun name => (name, item.field? "type_arguments")).toList ++
        (heritagePlan rest).1, .unwrap :: (heritagePlan rest).2)
    else
      match rest with
      | [] => ([(item, none)], [.enter])
      | following :: others =>
        if following.kind == "type_arguments" then
          ((item, some following) :: (heritagePlan others).1,
            .enter :: .enter :: (heritagePlan others).2)
        else
          ((item, none) :: (heritagePlan (following :: others)).1,
            .enter :: (heritagePlan (following :: others)).2)

/-- The items of a clause are handled by its plan; only the marks of the bases read the text and the
vocabulary. -/
lemma heritageItems_eq_plan (items : List Node) :
    reading.heritageItems items =
      ((heritagePlan items).1.flatMap fun base => reading.baseMarks base.1 base.2,
        (heritagePlan items).2) := by
  fun_induction heritagePlan items with
  | case1 => rfl
  | case2 item rest hkind ih =>
      rw [Reading.heritageItems.eq_def]
      simp only [if_pos hkind, ih]
  | case3 item rest hkind hgeneric ih =>
      rw [Reading.heritageItems.eq_def]
      simp only [if_neg hkind, if_pos hgeneric, ih]
      cases item.field? "name" <;> simp
  | case4 item hkind hgeneric =>
      rw [Reading.heritageItems, if_neg hkind, if_neg hgeneric]
      simp
  | case5 item hkind hgeneric following others harguments ih =>
      rw [Reading.heritageItems.eq_def]
      simp only [if_neg hkind, if_neg hgeneric, if_pos harguments, ih, List.flatMap_cons]
  | case6 item hkind hgeneric following others harguments ih =>
      rw [Reading.heritageItems.eq_def]
      simp only [if_neg hkind, if_neg hgeneric, if_neg harguments, ih, List.flatMap_cons]

lemma standard_heritageItems (items : List Node) :
    Standard (reading.heritageItems items).1 := by
  rw [heritageItems_eq_plan]
  exact standard_flatMap fun base _ => standard_baseMarks base.1 base.2

lemma standard_moduleStatement (node : Node) (specifiers : List Node) :
    Standard (reading.moduleStatement node specifiers).emitted := by
  rw [Reading.moduleStatement]
  split
  · refine standard_append.mpr ⟨standard_mark _ _, standard_flatMap fun specifier _ => ?_⟩
    split
    · exact standard_ite (standard_mark _ _) standard_nil
    · simp
  · refine standard_append.mpr ⟨standard_mark _ _, standard_flatMap fun specifier _ => ?_⟩
    split <;> simp

lemma standard_factoryMarks (arguments : Option Node) :
    Standard (reading.factoryMarks arguments) := by
  have hcomponent : ∀ first, Standard (reading.componentMarks first) := by
    intro first
    rw [Reading.componentMarks]
    refine standard_ite (standard_mark _ _) (standard_ite ?_ standard_nil)
    split
    · exact standard_ite (standard_mark _ _) standard_nil
    · simp
  have hkeys : ∀ properties, Standard (reading.keyMarks properties) := by
    intro properties
    rw [Reading.keyMarks]
    refine standard_ite (standard_flatMap fun pair _ => ?_) standard_nil
    split
    · exact standard_ite (standard_mark _ _) standard_nil
    · simp
  rw [Reading.factoryMarks]
  split
  · simp
  · split
    · simp
    · exact hcomponent _
    · exact standard_append.mpr ⟨hcomponent _, hkeys _⟩

lemma standard_call (node : Node) : Standard (reading.call node).emitted := by
  refine standard_append.mpr ⟨standard_bracketMarks _, ?_⟩
  split
  · simp
  · rw [Reading.calleeMarks]
    refine standard_ite (by simp) (standard_ite ?_ (standard_ite (by simp) (standard_mark _ _)))
    exact standard_append.mpr ⟨standard_mark _ _, standard_factoryMarks _⟩

lemma standard_classDeclaration (node : Node) :
    Standard (reading.classDeclaration node).emitted := by
  rw [Reading.classDeclaration]
  simp only [standard_through, standard_append, standard_mark, standard_bracketMarks, and_true,
    true_and]
  split <;> simp

lemma standard_methodDeclaration (site : Site) :
    Standard (reading.methodDeclaration site).emitted := by
  rw [Reading.methodDeclaration]
  simp only [standard_through, standard_append, standard_modifierMarks, standard_returnMarks,
    standard_bracketMarks, and_true]
  exact standard_ite (standard_mark _ _) standard_nil

lemma standard_defaultStep (site : Site) : Standard (reading.defaultStep site).emitted := by
  rw [Reading.defaultStep, standard_through]
  split <;> simp

/-! ### Characters around the ends of nodes -/

/-- Where the text between two offsets begins with a character, that stands at the first one. -/
lemma head?_cut_eq_some {text : List Char} {start stop : Nat} {c : Char}
    (h : (cut text start stop).head? = some c) : start < stop ∧ text[start]? = some c := by
  rw [cut, List.head?_take, List.head?_drop] at h
  split at h
  · cases h
  · exact ⟨by omega, h⟩

lemma standard_closingBrace {text : List Char} {start stop : Nat} {brace : List Candidate}
    (h : closingBrace text start stop = .ok brace) : Standard brace := by
  rw [closingBrace] at h
  split at h
  · simp only [bind, except_bind_eq_ok, pure, Except.pure, Except.ok.injEq] at h
    obtain ⟨c, -, rfl⟩ := h
    exact standard_ite (standard_claim _ _ _) standard_nil
  · cases h
    simp

/-- An expression between braces emits a claim from its start, and perhaps one on its last brace. -/
lemma embedded_eq_ok (h : reading.embedded node = .ok step) :
    ∃ (stop : Int) (start : Nat) (brace : List Candidate),
      closingBrace reading.text start node.stop = .ok brace ∧
        step = Step.through node (claim node.start stop .jsx ++ brace) := by
  rw [Reading.embedded] at h
  simp only [bind, pure, Except.pure] at h
  split at h
  · simp only [except_bind_eq_ok, Except.ok.injEq] at h
    obtain ⟨spread, -, brace, hbrace, rfl⟩ := h
    exact ⟨_, spread, brace, hbrace, rfl⟩
  · simp only [except_bind_eq_ok, Except.ok.injEq] at h
    obtain ⟨brace, hbrace, rfl⟩ := h
    exact ⟨_, _, brace, hbrace, rfl⟩

/-- Blanks can be passed over up to an offset of the text. -/
lemma exists_skipBlanksUpTo {text : List Char} {stop : Nat} (first : Nat)
    (h : stop ≤ text.length) :
    ∃ next, skipBlanksUpTo text first stop = .ok next := by
  unfold skipBlanksUpTo
  simp only
  split
  · exact ⟨_, rfl⟩
  · split
    · exact ⟨_, rfl⟩
    · rw [if_pos (by omega)]
      exact ⟨_, rfl⟩

/-- The last character of a stretch of the text can be read. -/
lemma exists_closingBrace {text : List Char} {stop : Nat} (start : Nat)
    (h : stop ≤ text.length) :
    ∃ brace, closingBrace text start stop = .ok brace := by
  rw [closingBrace]
  split
  · have hread : charBefore text stop = .ok (text.get ⟨stop - 1, by omega⟩) := by
      have hget : text[stop - 1]? = some (text.get ⟨stop - 1, by omega⟩) :=
        List.getElem?_eq_getElem (by omega)
      rw [charBefore, hget]
    rw [hread]
    exact ⟨_, rfl⟩
  · exact ⟨_, rfl⟩

lemma exists_embedded (h : node.stop ≤ reading.text.length) :
    ∃ step, reading.embedded node = .ok step := by
  rw [Reading.embedded]
  simp only [bind, pure, Except.pure]
  split
  · obtain ⟨spread, hspread⟩ := exists_skipBlanksUpTo (node.start + 1) h
    obtain ⟨brace, hbrace⟩ := exists_closingBrace spread h
    rw [hspread]
    simp only [Except.bind]
    rw [hbrace]
    exact ⟨_, rfl⟩
  · obtain ⟨brace, hbrace⟩ := exists_closingBrace (node.start + 1) h
    rw [hbrace]
    exact ⟨_, rfl⟩

/-! ### Rules and visits -/

variable {enums : NameSet} {site : Site}

/-- Whatever the rule, where it does not decline it emits standard candidates. -/
lemma Rule.standard_apply {rule : Rule} (h : rule.apply reading enums site = .ok (some step)) :
    Standard step.emitted := by
  -- rules that always answer give their step outright, and the others by their lemmas above
  have houtright : ∀ {answer : Step}, Standard answer.emitted →
      (.ok (some answer) : Except OffsetFault (Option Step)) = .ok (some step) →
      Standard step.emitted := by
    rintro answer hanswer heq
    cases heq
    exact hanswer
  cases rule with
  | element =>
      obtain ⟨tag, rfl⟩ := genericArrow?_eq_some (Except.ok.inj h)
      simp
  | openingTag => exact houtright (standard_openingTag _) h
  | closingTag => exact houtright (standard_closingTag _) h
  | embedded =>
      obtain ⟨answer, hanswer, heq⟩ := except_map_eq_ok.mp h
      cases heq
      obtain ⟨stop, start, brace, hbrace, rfl⟩ := embedded_eq_ok hanswer
      simp [standard_closingBrace hbrace]
  | markupAttribute => exact houtright (standard_markupAttribute _) h
  | decorator => exact houtright (standard_mark _ _) h
  | expressionStatement =>
      rcases expressionStatement?_eq_some (Except.ok.inj h) with ⟨layer, rfl⟩ | hrecovered
      · simp
      · obtain ⟨stop, rfl⟩ := recoveredUsing?_eq_some hrecovered
        simp
  | awaitExpression =>
      obtain ⟨stop, rfl⟩ := recoveredUsing?_eq_some (Except.ok.inj h)
      simp
  | ambient => exact houtright (standard_mark _ _) h
  | variableDeclaration =>
      obtain ⟨stop, rfl⟩ := usingDeclaration?_eq_some (Except.ok.inj h)
      simp
  | heritage => exact houtright (standard_heritageItems _) h
  | instantiation =>
      obtain ⟨first, rfl⟩ := instantiation?_eq_some (Except.ok.inj h)
      simp
  | typeOperator =>
      obtain ⟨operand, rfl⟩ := typeOperator?_eq_some (Except.ok.inj h)
      simp
  | typeAssertion =>
      obtain ⟨i, operand, rfl⟩ := typeAssertion?_eq_some (Except.ok.inj h)
      simp
  | nonNull =>
      obtain ⟨operand, rfl⟩ := nonNull?_eq_some (Except.ok.inj h)
      simp
  | declarator =>
      obtain ⟨typeNode, rfl⟩ := typedDeclarator?_eq_some (Except.ok.inj h)
      simp
  | typedBinding => exact houtright (by simp [typedBindingStep]) h
  | propertySignature => exact houtright (by simp [propertySignatureStep]) h
  | importStatement => exact houtright (standard_moduleStatement _ _) h
  | exportStatement => exact houtright (standard_moduleStatement _ _) h
  | enumDeclaration => exact houtright (standard_mark _ _) h
  | memberAccess =>
      rw [enumAccess?_eq_some (Except.ok.inj h)]
      simp
  | call => exact houtright (standard_call _) h
  | construction => exact houtright (by simp [Reading.construction]) h
  | classDeclaration => exact houtright (standard_classDeclaration _) h
  | functionDeclaration => exact houtright (by simp [Reading.functionDeclaration]) h
  | methodDeclaration => exact houtright (standard_methodDeclaration _) h

/-- The step at a node is the answer of the rule for its kind, or the default one where there is no
rule or the rule declines. -/
lemma visit_cases (h : reading.visit enums site = .ok step) :
    (∃ rule, Rule.ofKind? site.node.kind = some rule ∧
      rule.apply reading enums site = .ok (some step)) ∨
    step = reading.defaultStep site ∧
      ∀ rule, Rule.ofKind? site.node.kind = some rule →
        rule.apply reading enums site = .ok none := by
  rw [Reading.visit] at h
  cases hrule : Rule.ofKind? site.node.kind with
  | none =>
      rw [hrule] at h
      exact Or.inr ⟨(Except.ok.inj h).symm, by simp⟩
  | some rule =>
      rw [hrule] at h
      obtain ⟨answer, hanswer, hstep⟩ := except_map_eq_ok.mp h
      cases answer with
      | none =>
          refine Or.inr ⟨hstep.symm, fun other hother => ?_⟩
          cases hother
          exact hanswer
      | some given =>
          refine Or.inl ⟨rule, rfl, ?_⟩
          rw [hanswer, ← hstep]
          rfl

/-- Every step emits standard candidates. -/
lemma standard_visit (h : reading.visit enums site = .ok step) : Standard step.emitted := by
  rcases visit_cases h with ⟨rule, -, happly⟩ | ⟨rfl, -⟩
  · exact Rule.standard_apply happly
  · exact standard_defaultStep site

/-- The step at a node that ends within the text is taken: only expressions between braces read
single characters, and these lie before the end of their node. -/
lemma exists_visit (enums : NameSet) (h : site.node.stop ≤ reading.text.length) :
    ∃ step, reading.visit enums site = .ok step := by
  have happly : ∀ rule : Rule, ∃ answer, rule.apply reading enums site = .ok answer := by
    intro rule
    cases rule with
    | embedded =>
        obtain ⟨step, hstep⟩ := exists_embedded h
        exact ⟨some step, by rw [Rule.apply, hstep]; rfl⟩
    | _ => exact ⟨_, rfl⟩
  rw [Reading.visit]
  cases Rule.ofKind? site.node.kind with
  | none => exact ⟨_, rfl⟩
  | some rule =>
      obtain ⟨answer, hanswer⟩ := happly rule
      exact ⟨answer.getD (reading.defaultStep site), except_map_eq_ok.mpr ⟨answer, hanswer, rfl⟩⟩

end SourceLayers
