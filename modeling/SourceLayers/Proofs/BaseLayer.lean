/-
The base under a node:

* `Step.Marks`: a step emits the mark of a whole node in some layer;
* `Rule.marksWhole`, `Rule.marks_apply`: the rules that mark their nodes as a whole whenever they do
  not decline, whichever way they take;
* `defaultStep_marks_of_layer`: where a rule declines, the tables do;
* `visit_marks`, `visit_marks_typed`, `visit_marks_markup`: so every node of a covered kind is
  marked, nodes of types as typed language, and text in markup as markup.

The tables of kinds are compared as data: a kind that is covered is in a table or has a rule that
never declines, and no rule without a base is for a covered kind.
-/
import Mathlib.Tactic
import SourceLayers.Proofs.Emission

namespace SourceLayers

/-! ### Kinds -/

/-- The kinds that the tables give a layer. -/
def tabledKinds : List String :=
  referenceKinds ++ typeKinds ++ markupKinds ++ baseKinds

/-- The kinds outside of the tables whose nodes have a base nevertheless. -/
def ruledKinds : List String :=
  ["abstract_class_declaration", "function_signature", "method_definition",
    "public_field_definition", "field_definition", "new_expression", "decorator",
    "ambient_declaration", "module", "internal_module"]

/-- The kinds whose nodes are covered from end to end. -/
def coveredKinds : List String :=
  tabledKinds ++ ruledKinds

/-- The kinds whose nodes are typed language from end to end. -/
def typedKinds : List String :=
  typeKinds ++ ["decorator", "ambient_declaration", "module", "internal_module"]

namespace Rule

/-- The rules that may leave a node to the tables. -/
def mayDecline : Rule → Bool
  | .element | .expressionStatement | .awaitExpression | .variableDeclaration | .instantiation
  | .typeOperator | .typeAssertion | .nonNull | .declarator | .memberAccess => true
  | _ => false

/-- The rules that mark a node as a whole unless they decline. Methods are not among them: only
those with a body, or in a class, have a base. -/
def marksWhole : Rule → Bool
  | .decorator | .expressionStatement | .awaitExpression | .ambient | .variableDeclaration
  | .declarator | .typedBinding | .importStatement | .exportStatement | .enumDeclaration
  | .memberAccess | .construction | .classDeclaration | .functionDeclaration => true
  | _ => false

lemma mem_kinds_of_ofKind? {kind : String} {rule : Rule} (h : ofKind? kind = some rule) :
    rule ∈ all ∧ kind ∈ rule.kinds := by
  have hfound := List.find?_some h
  exact ⟨List.mem_of_find?_eq_some h, by simpa using hfound⟩

/-- The kinds that are covered although no table lists them have rules that never decline. -/
lemma ofKind?_ruledKinds :
    ∀ kind ∈ ruledKinds, ∃ rule ∈ ofKind? kind, rule.mayDecline = false := by
  decide +kernel

/-- A rule for a covered kind marks its nodes as a whole, or is that of methods with a body. -/
lemma marksWhole_of_covered :
    ∀ rule ∈ all, ∀ kind ∈ rule.kinds,
      rule.marksWhole = true ∨ kind = "method_definition" ∨ kind ∉ coveredKinds := by
  decide +kernel

/-- Of the kinds of types only enumerations have a rule. -/
lemma eq_enumDeclaration_of_typed :
    ∀ rule ∈ all, ∀ kind ∈ rule.kinds, rule = .enumDeclaration ∨ kind ∉ typeKinds := by
  decide +kernel

end Rule

/-! ### Marks of whole nodes -/

/-- A step emits the mark of a whole node in a layer. -/
def Step.Marks (step : Step) (node : Node) (layer : Layer) : Prop :=
  ∀ c ∈ mark node layer, c ∈ step.emitted

variable {reading : Reading} {enums : NameSet} {site : Site} {step : Step}

/-- The keywords of a declaration are marked besides the whole of it. -/
lemma marks_using {node : Node} {stop : Nat} :
    (Step.through node (claim node.start stop .typescript ++ mark node .javascript)).Marks node
      .javascript :=
  fun _ hc => List.mem_append_right _ hc

lemma moduleStatement_marks (node : Node) (specifiers : List Node) :
    ∃ layer, (reading.moduleStatement node specifiers).Marks node layer := by
  rw [Reading.moduleStatement]
  split
  · exact ⟨.typescript, fun _ hc => List.mem_append_left _ hc⟩
  · exact ⟨.javascript, fun _ hc => List.mem_append_left _ hc⟩

/-- A rule that marks whole nodes does so whichever way it takes. -/
lemma Rule.marks_apply {rule : Rule} (hwhole : rule.marksWhole = true)
    (h : rule.apply reading enums site = .ok (some step)) :
    ∃ layer, step.Marks site.node layer := by
  cases rule with
  | decorator =>
      cases h
      exact ⟨.typescript, fun _ hc => hc⟩
  | expressionStatement =>
      rcases expressionStatement?_eq_some (Except.ok.inj h) with ⟨layer, rfl⟩ | hrecovered
      · exact ⟨layer, fun _ hc => hc⟩
      · obtain ⟨stop, rfl⟩ := recoveredUsing?_eq_some hrecovered
        exact ⟨.javascript, marks_using⟩
  | awaitExpression =>
      obtain ⟨stop, rfl⟩ := recoveredUsing?_eq_some (Except.ok.inj h)
      exact ⟨.javascript, marks_using⟩
  | ambient =>
      cases h
      exact ⟨.typescript, fun _ hc => hc⟩
  | variableDeclaration =>
      obtain ⟨stop, rfl⟩ := usingDeclaration?_eq_some (Except.ok.inj h)
      exact ⟨.javascript, marks_using⟩
  | declarator =>
      obtain ⟨typeNode, rfl⟩ := typedDeclarator?_eq_some (Except.ok.inj h)
      exact ⟨.javascript, fun _ hc => List.mem_append_left _ hc⟩
  | typedBinding =>
      cases h
      exact ⟨.javascript, fun _ hc => List.mem_append_left _ (List.mem_append_left _ hc)⟩
  | importStatement =>
      cases h
      exact moduleStatement_marks _ _
  | exportStatement =>
      cases h
      exact moduleStatement_marks _ _
  | enumDeclaration =>
      cases h
      exact ⟨.typescript, fun _ hc => hc⟩
  | memberAccess =>
      obtain rfl := enumAccess?_eq_some (Except.ok.inj h)
      exact ⟨.typescript, fun _ hc => hc⟩
  | construction =>
      cases h
      exact ⟨.javascript, fun _ hc => List.mem_append_left _ hc⟩
  | classDeclaration =>
      cases h
      exact ⟨.javascript, fun _ hc => List.mem_append_left _ (List.mem_append_left _ hc)⟩
  | functionDeclaration =>
      cases h
      exact ⟨.javascript, fun _ hc => List.mem_append_left _ (List.mem_append_left _ hc)⟩
  | _ => cases hwhole

/-- A method with a body has the base language under it. -/
lemma methodDeclaration_marks (hkind : site.node.kind = "method_definition") :
    (reading.methodDeclaration site).Marks site.node .javascript := by
  intro c hc
  rw [Reading.methodDeclaration]
  simp only [hkind, beq_self_eq_true, Bool.true_or, if_true]
  exact List.mem_append_left _ (List.mem_append_left _ (List.mem_append_left _ hc))

/-- A rule that declines is one of those that may. -/
lemma Rule.mayDecline_of_apply {rule : Rule} (h : rule.apply reading enums site = .ok none) :
    rule.mayDecline = true := by
  cases rule with
  | embedded =>
      obtain ⟨answer, -, hsome⟩ := except_map_eq_ok.mp h
      cases hsome
  | element | expressionStatement | awaitExpression | variableDeclaration | instantiation
  | typeOperator | typeAssertion | nonNull | declarator | memberAccess => rfl
  | _ => cases h

/-! ### The tables -/

lemma defaultStep_marks_of_layer {layer : Layer} (h : reading.defaultLayer? site = some layer) :
    (reading.defaultStep site).Marks site.node layer := by
  intro c hc
  rw [Reading.defaultStep, h]
  exact hc

/-- The tables give every kind that they list a layer. -/
lemma exists_defaultLayer? (h : site.node.kind ∈ tabledKinds) :
    ∃ layer, reading.defaultLayer? site = some layer := by
  unfold Reading.defaultLayer?
  simp only
  by_cases href : referenceKinds.contains site.node.kind = true
  · exact ⟨_, if_pos href⟩
  rw [if_neg href]
  by_cases htype : typeKinds.contains site.node.kind = true
  · exact ⟨_, if_pos htype⟩
  rw [if_neg htype]
  by_cases hmarkup : markupKinds.contains site.node.kind = true
  · exact ⟨_, if_pos hmarkup⟩
  rw [if_neg hmarkup]
  -- what is left is of the base language, perhaps the namespace of the library
  have hbase : baseKinds.contains site.node.kind = true := by
    simp only [tabledKinds, List.mem_append] at h
    simp only [List.contains_iff_mem] at href htype hmarkup ⊢
    tauto
  rw [if_pos hbase]
  split
  · exact ⟨_, rfl⟩
  · exact ⟨_, rfl⟩

lemma defaultLayer?_eq_typescript (h : site.node.kind ∈ typeKinds) :
    reading.defaultLayer? site = some .typescript := by
  have hreference : ∀ kind ∈ referenceKinds, kind ∉ typeKinds := by decide +kernel
  have href : ¬ referenceKinds.contains site.node.kind = true := fun hmem =>
    hreference _ (List.contains_iff_mem.mp hmem) h
  unfold Reading.defaultLayer?
  simp only
  rw [if_neg href, if_pos (List.contains_iff_mem.mpr h)]

lemma defaultLayer?_eq_jsx (h : site.node.kind ∈ markupKinds) :
    reading.defaultLayer? site = some .jsx := by
  have hothers : ∀ kind ∈ markupKinds, kind ∉ referenceKinds ∧ kind ∉ typeKinds := by
    decide +kernel
  obtain ⟨hreference, htype⟩ := hothers _ h
  unfold Reading.defaultLayer?
  simp only
  rw [if_neg (mt List.contains_iff_mem.mp hreference), if_neg (mt List.contains_iff_mem.mp htype),
    if_pos (List.contains_iff_mem.mpr h)]

/-! ### Visits -/

/-- The step at a node without a rule visits all content. -/
lemma fates_of_no_rule (hrule : Rule.ofKind? site.node.kind = none)
    (h : reading.visit enums site = .ok step) : step.fates = Step.enterAll site.node := by
  rcases visit_cases h with ⟨rule, hsome, -⟩ | ⟨rfl, -⟩
  · rw [hrule] at hsome
    cases hsome
  · rfl

/-- **The base under a node**: the step at a node of a covered kind marks the whole node in some
layer. -/
theorem visit_marks (hkind : site.node.kind ∈ coveredKinds)
    (h : reading.visit enums site = .ok step) : ∃ layer, step.Marks site.node layer := by
  rcases visit_cases h with ⟨rule, hrule, happly⟩ | ⟨rfl, hdeclined⟩
  · obtain ⟨hall, hmem⟩ := Rule.mem_kinds_of_ofKind? hrule
    rcases Rule.marksWhole_of_covered rule hall _ hmem with hwhole | hmethod | huncovered
    · exact Rule.marks_apply hwhole happly
    · have hofKind : Rule.ofKind? "method_definition" = some .methodDeclaration := by
        decide +kernel
      rw [hmethod, hofKind] at hrule
      cases hrule
      cases happly
      exact ⟨.javascript, methodDeclaration_marks hmethod⟩
    · exact absurd hkind huncovered
  · rcases List.mem_append.mp hkind with htabled | hruled
    · obtain ⟨layer, hlayer⟩ := exists_defaultLayer? htabled
      exact ⟨layer, defaultStep_marks_of_layer hlayer⟩
    · -- the rules for the other kinds never decline
      obtain ⟨rule, hrule, hnever⟩ := Rule.ofKind?_ruledKinds _ hruled
      have hmay := Rule.mayDecline_of_apply (hdeclined rule hrule)
      rw [hnever] at hmay
      cases hmay

/-- The step at a node of types marks the whole node as typed language. -/
theorem visit_marks_typed (hkind : site.node.kind ∈ typedKinds)
    (h : reading.visit enums site = .ok step) : step.Marks site.node .typescript := by
  have hwhole : ∀ kind ∈ ["decorator", "ambient_declaration", "module", "internal_module"],
      Rule.ofKind? kind = some .decorator ∨ Rule.ofKind? kind = some .ambient := by
    decide +kernel
  rcases visit_cases h with ⟨rule, hrule, happly⟩ | ⟨rfl, hdeclined⟩
  · obtain ⟨hall, hmem⟩ := Rule.mem_kinds_of_ofKind? hrule
    rcases List.mem_append.mp hkind with htype | hother
    · rcases Rule.eq_enumDeclaration_of_typed rule hall _ hmem with rfl | huntyped
      · cases happly
        exact fun _ hc => hc
      · exact absurd htype huntyped
    · rcases hwhole _ hother with hdecorator | hambient
      · rw [hdecorator] at hrule
        cases hrule
        cases happly
        exact fun _ hc => hc
      · rw [hambient] at hrule
        cases hrule
        cases happly
        exact fun _ hc => hc
  · rcases List.mem_append.mp hkind with htype | hother
    · exact defaultStep_marks_of_layer (defaultLayer?_eq_typescript htype)
    · rcases hwhole _ hother with hdecorator | hambient
      · cases hdeclined _ hdecorator
      · cases hdeclined _ hambient

/-- The step at text in markup marks all of it as markup. -/
theorem visit_marks_markup (hkind : site.node.kind ∈ markupKinds)
    (h : reading.visit enums site = .ok step) : step.Marks site.node .jsx := by
  have hrules : ∀ kind ∈ markupKinds, Rule.ofKind? kind = none := by decide +kernel
  rcases visit_cases h with ⟨rule, hrule, -⟩ | ⟨rfl, -⟩
  · rw [hrules _ hkind] at hrule
    cases hrule
  · exact defaultStep_marks_of_layer (defaultLayer?_eq_jsx hkind)

end SourceLayers
