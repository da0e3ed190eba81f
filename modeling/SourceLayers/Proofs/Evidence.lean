/-
What it takes to be of the library:

* `withoutBlanks_identifier`: identifiers have no blanks, by the tables of both;
* `Reading.Mentions`: some name of the vocabulary stands in the text, where blanks do not count;
* `Reading.mentions_of_nameOf`, `mentions_of_isHookCall`, `mentions_of_isLibraryType` and their
  like: each test that a rule makes on a piece of the text comes down to such a name;
* `Backed`: candidates of the library only for a reason;
* `Rule.backed_apply`, `visit_backed`, `Walks.backed`: whatever the rule, the step and the walk, the
  reason is that the text mentions the library.

Main statement: `library_needs_mention`, that a text in which no name of the vocabulary stands has
nothing of the library, whatever its tree.
-/
import Mathlib.Tactic
import SourceLayers.Proofs.CommentScan
import SourceLayers.Proofs.Precedence

namespace SourceLayers

/-! ### Pieces of a text without blanks -/

/-- Tables of characters that have no range in common have no character in common. -/
lemma CodeRanges.contains_eq_false {a b : CodeRanges}
    (h : ∀ r ∈ a, ∀ s ∈ b, r.2 < s.1 ∨ s.2 < r.1) {c : Char} (hc : a.contains c = true) :
    b.contains c = false := by
  obtain ⟨r, hr, hrange⟩ := List.any_eq_true.mp hc
  rw [CodeRanges.contains, List.any_eq_false]
  intro s hs hother
  simp only [Bool.and_eq_true, decide_eq_true_eq] at hrange hother
  have hapart := h r hr s hs
  omega

lemma isBlank_of_isIdentifierContinue {c : Char} (h : isIdentifierContinue c = true) :
    isBlank c = false := by
  have hstart : ∀ r ∈ identifierStartRanges, ∀ s ∈ blankRanges, r.2 < s.1 ∨ s.2 < r.1 := by
    decide +kernel
  have hothers : ∀ r ∈ identifierOnlyContinueRanges, ∀ s ∈ blankRanges,
      r.2 < s.1 ∨ s.2 < r.1 := by decide +kernel
  rcases Bool.or_eq_true_iff.mp h with hc | hc
  · exact CodeRanges.contains_eq_false hstart hc
  · exact CodeRanges.contains_eq_false hothers hc

/-- The characters of an identifier, the first one too, are such that may continue one. -/
lemma isIdentifierContinue_of_mem {text : String} (h : isIdentifier text = true) :
    ∀ c ∈ text.toList, isIdentifierContinue c = true := by
  rw [isIdentifier] at h
  split at h
  · cases h
  · rename_i first rest hchars
    obtain ⟨hfirst, hrest⟩ := Bool.and_eq_true_iff.mp h
    rw [hchars, List.forall_mem_cons]
    exact ⟨by rw [isIdentifierContinue, hfirst, Bool.true_or], List.all_eq_true.mp hrest⟩

/-- Identifiers have no blanks. -/
lemma withoutBlanks_identifier (identifier : Identifier) :
    withoutBlanks identifier.val.toList = identifier.val.toList := by
  rw [withoutBlanks, List.filter_eq_self]
  intro c hc
  rw [isBlank_of_isIdentifierContinue (isIdentifierContinue_of_mem identifier.property c hc)]
  rfl

lemma withoutBlanks_withoutBlanks (text : List Char) :
    withoutBlanks (withoutBlanks text) = withoutBlanks text := by
  simp [withoutBlanks, List.filter_filter]

lemma withoutBlanks_isInfix {part text : List Char} (h : part <:+: text) :
    withoutBlanks part <:+: withoutBlanks text :=
  h.filter _

lemma cut_isInfix (text : List Char) (start stop : Nat) : cut text start stop <:+: text :=
  (List.take_prefix _ _).isInfix.trans (List.drop_suffix _ _).isInfix

/-! ### Mentions of the library -/

/-- The five sets of names of a vocabulary. -/
def Vocabulary.nameSets (vocabulary : Vocabulary) : List NameSet :=
  [vocabulary.hooks, vocabulary.types, vocabulary.utilities, vocabulary.jsxAttributes,
    vocabulary.directives]

/-- The names of a vocabulary that stand alone: its two namespaces and the element factory. -/
def Vocabulary.singleNames (vocabulary : Vocabulary) : List String :=
  [vocabulary.library.val, vocabulary.markup.val, vocabulary.elementFactory]

namespace Reading

/-- The text mentions the library: without its blanks it holds a namespace or the element factory,
or a name of one of the sets, whose blanks do not count either. -/
def Mentions (reading : Reading) : Prop :=
  (∃ name ∈ reading.vocabulary.singleNames, name.toList <:+: withoutBlanks reading.text) ∨
    ∃ names ∈ reading.vocabulary.nameSets, ∃ name ∈ names,
      withoutBlanks name.toList <:+: withoutBlanks reading.text

variable {reading : Reading} {node : Node} {piece : List Char}

/-- The text of a node is a piece of the text, also without blanks. -/
lemma textOf_isInfix (reading : Reading) (node : Node) :
    withoutBlanks (reading.textOf node) <:+: withoutBlanks reading.text :=
  withoutBlanks_isInfix (cut_isInfix _ _ _)

/-! Each test of a rule on a piece of the text comes down to a mention. -/

lemma mentions_of_single {name : String} (hname : name ∈ reading.vocabulary.singleNames)
    (h : name.toList <:+: withoutBlanks reading.text) : reading.Mentions :=
  Or.inl ⟨name, hname, h⟩

lemma mentions_of_member {names : NameSet} (hset : names ∈ reading.vocabulary.nameSets)
    (hmember : String.ofList piece ∈ names)
    (hpiece : withoutBlanks piece <:+: withoutBlanks reading.text) : reading.Mentions := by
  refine Or.inr ⟨names, hset, _, hmember, ?_⟩
  rwa [String.toList_ofList]

lemma mentions_of_nameOf {names : NameSet} (hset : names ∈ reading.vocabulary.nameSets)
    (hmember : names.contains (reading.nameOf node) = true) : reading.Mentions :=
  mentions_of_member hset (NameSet.contains_iff.mp hmember) (textOf_isInfix reading node)

/-- A node that is the namespace of the library has its text without blanks. -/
lemma mentions_of_library (h : reading.nameOf node = reading.vocabulary.library.val) :
    reading.Mentions := by
  have htext : reading.textOf node = reading.vocabulary.library.val.toList := by
    rw [← h, nameOf, String.toList_ofList]
  have hpiece := textOf_isInfix reading node
  rw [htext, withoutBlanks_identifier] at hpiece
  exact mentions_of_single List.mem_cons_self hpiece

/-- A name of the sets in the text without blanks has no blanks itself. -/
lemma mentions_of_spelled {names : NameSet} (hset : names ∈ reading.vocabulary.nameSets)
    (hmember : names.contains (String.ofList piece) = true)
    (hpiece : piece <:+: withoutBlanks reading.text) : reading.Mentions := by
  refine mentions_of_member hset (NameSet.contains_iff.mp hmember) ?_
  have hspelled := withoutBlanks_isInfix hpiece
  rwa [withoutBlanks_withoutBlanks] at hspelled

/-- A piece that begins with one of the single names holds it. -/
lemma mentions_of_isPrefixOf {name : String} {rest : List Char}
    (hname : name ∈ reading.vocabulary.singleNames)
    (h : (name.toList ++ rest).isPrefixOf piece = true)
    (hpiece : piece <:+: withoutBlanks reading.text) : reading.Mentions := by
  have hbegins : name.toList <+: piece :=
    (List.prefix_append _ _).trans (List.isPrefixOf_iff_prefix.mp h)
  exact mentions_of_single hname (hbegins.isInfix.trans hpiece)

lemma mentions_of_isHookCall (h : reading.vocabulary.isHookCall piece = true)
    (hpiece : piece <:+: withoutBlanks reading.text) : reading.Mentions := by
  rw [Vocabulary.isHookCall] at h
  rcases Bool.or_eq_true_iff.mp h with hhook | hmarked
  · exact mentions_of_spelled (by simp [Vocabulary.nameSets]) hhook hpiece
  · exact mentions_of_isPrefixOf List.mem_cons_self (Bool.and_eq_true_iff.mp hmarked).1 hpiece

lemma mentions_of_isElementFactory (h : reading.vocabulary.isElementFactory piece = true)
    (hpiece : piece <:+: withoutBlanks reading.text) : reading.Mentions := by
  rw [Vocabulary.isElementFactory, Bool.or_eq_true, beq_iff_eq, beq_iff_eq] at h
  rcases h with rfl | hnamespaced
  · exact mentions_of_single (by simp [Vocabulary.singleNames]) hpiece
  · have hbegins : (reading.vocabulary.library.val.toList ++
        '.' :: reading.vocabulary.elementFactory.toList).isPrefixOf piece = true := by
      rw [hnamespaced]
      exact List.isPrefixOf_iff_prefix.mpr List.prefix_rfl
    exact mentions_of_isPrefixOf List.mem_cons_self hbegins hpiece

lemma mentions_of_isNamespaced (h : reading.vocabulary.isNamespaced piece = true)
    (hpiece : piece <:+: withoutBlanks reading.text) : reading.Mentions :=
  mentions_of_isPrefixOf List.mem_cons_self h hpiece

lemma mentions_of_isLibraryType (h : reading.vocabulary.isLibraryType piece = true)
    (hpiece : piece <:+: withoutBlanks reading.text) : reading.Mentions := by
  rw [Vocabulary.isLibraryType, Bool.or_eq_true, Bool.or_eq_true] at h
  rcases h with (hlibrary | hmarkup) | htype
  · exact mentions_of_isNamespaced hlibrary hpiece
  · exact mentions_of_isPrefixOf (by simp [Vocabulary.singleNames]) hmarkup hpiece
  · exact mentions_of_spelled (by simp [Vocabulary.nameSets]) htype hpiece

lemma referenceName_isInfix (reading : Reading) (node : Node) :
    reading.referenceName node <:+: withoutBlanks reading.text := by
  rw [referenceName]
  split
  · split
    · exact textOf_isInfix reading _
    · exact List.nil_infix
  · exact textOf_isInfix reading node

lemma mentions_of_isNamespacedTag (h : reading.isNamespacedTag node = true) :
    reading.Mentions := by
  rw [isNamespacedTag] at h
  obtain ⟨-, hfirst⟩ := Bool.and_eq_true_iff.mp h
  split at hfirst
  · cases hfirst
  · exact mentions_of_library (beq_iff_eq.mp (Bool.and_eq_true_iff.mp hfirst).2)

end Reading

/-! ### Candidates of the library for a reason -/

/-- There is a reason for the candidates of the library, if there are any. -/
def Backed (reason : Prop) (candidates : List Candidate) : Prop :=
  ∀ c ∈ candidates, c.layer = .react → reason

variable {reason : Prop}

@[simp] lemma backed_nil : Backed reason [] := by
  simp [Backed]

@[simp] lemma backed_append {xs ys : List Candidate} :
    Backed reason (xs ++ ys) ↔ Backed reason xs ∧ Backed reason ys := by
  simp [Backed, or_imp, forall_and]

/-- A claim of another layer needs no reason. -/
@[simp] lemma backed_claim {start stop : Int} {layer : Layer} (h : layer ≠ .react) :
    Backed reason (claim start stop layer) := by
  intro c hc hlayer
  exact absurd ((mem_claim.mp hc).2.2.1.symm.trans hlayer) h

@[simp] lemma backed_mark {node : Node} {layer : Layer} (h : layer ≠ .react) :
    Backed reason (mark node layer) :=
  backed_claim h

lemma backed_flatMap {α : Type} {items : List α} {emit : α → List Candidate}
    (h : ∀ item ∈ items, Backed reason (emit item)) : Backed reason (items.flatMap emit) := by
  intro c hc
  obtain ⟨item, hitem, hmem⟩ := List.mem_flatMap.mp hc
  exact h item hitem c hmem

/-- Where a test decides for the library, the test may be the reason. -/
lemma backed_ite {p : Prop} [Decidable p] {xs ys : List Candidate} (hp : p → reason)
    (hy : Backed reason ys) : Backed reason (if p then xs else ys) := by
  split
  · exact fun _ _ _ => hp ‹p›
  · exact hy

lemma backed_mark_ite {p : Prop} [Decidable p] {node : Node} {layer : Layer} (hp : p → reason)
    (hlayer : layer ≠ .react) : Backed reason (mark node (if p then .react else layer)) := by
  rw [apply_ite (mark node)]
  exact backed_ite hp (backed_mark hlayer)

/-! ### Rules -/

variable {reading : Reading} {enums : NameSet} {site : Site} {step : Step}

@[simp] lemma backed_bracketMarks (list : Option Node) :
    Backed reason (reading.bracketMarks list) := by
  rw [Reading.bracketMarks]
  split
  · simp
  · split <;> simp

@[simp] lemma backed_modifierMarks (node : Node) : Backed reason (modifierMarks node) :=
  backed_flatMap fun _ _ => backed_mark (by decide)

@[simp] lemma backed_annotationMarks (node : Node) (typeNode : Option Node) :
    Backed reason (annotationMarks node typeNode) := by
  unfold annotationMarks
  split <;> simp

@[simp] lemma backed_returnMarks (node : Node) : Backed reason (returnMarks node) := by
  rw [returnMarks]
  split <;> simp

lemma backed_openingTag (node : Node) :
    Backed reading.Mentions (reading.openingTag node).emitted := by
  have hend : Backed reading.Mentions (reading.tagEnd node) := by
    rw [Reading.tagEnd]
    split <;> split <;> simp
  rw [Reading.openingTag]
  split
  · exact backed_claim (by decide)
  · refine backed_append.mpr ⟨backed_append.mpr ⟨?_, backed_bracketMarks _⟩, hend⟩
    exact backed_ite Reading.mentions_of_isNamespacedTag (backed_claim (by decide))

lemma backed_closingTag (node : Node) :
    Backed reading.Mentions (reading.closingTag node).emitted := by
  rw [Reading.closingTag]
  split
  · rename_i name hname
    exact fun _ _ _ => Reading.mentions_of_isNamespacedTag (Option.filter_eq_some_iff.mp hname).2
  · exact backed_claim (by decide)

lemma backed_markupAttribute (node : Node) :
    Backed reading.Mentions (reading.markupAttribute node).emitted := by
  have hname : ∀ name, Backed reading.Mentions (mark name
      (if reading.vocabulary.jsxAttributes.contains (reading.nameOf name) then .react
        else .jsx)) := fun name =>
    backed_mark_ite (Reading.mentions_of_nameOf (by simp [Vocabulary.nameSets])) (by decide)
  rw [Reading.markupAttribute]
  rcases node.content with _ | ⟨name, _ | ⟨value, rest⟩⟩
  · exact backed_nil
  · exact hname name
  · simp only
    split
    · exact backed_append.mpr ⟨backed_append.mpr ⟨hname name, backed_claim (by decide)⟩,
        backed_mark (by decide)⟩
    · exact backed_append.mpr ⟨hname name, backed_claim (by decide)⟩

lemma backed_expressionStatement {node : Node} (h : reading.expressionStatement? node = some step) :
    Backed reading.Mentions step.emitted := by
  have hrecovered : ∀ {step : Step}, reading.recoveredUsing? node = some step →
      Backed reading.Mentions step.emitted := by
    intro step h
    obtain ⟨stop, rfl⟩ := recoveredUsing?_eq_some h
    simp [Step.through]
  rw [Reading.expressionStatement?] at h
  split at h
  · rename_i only honly
    split at h
    · cases h
      refine backed_mark_ite (fun hdirective => ?_) (by decide)
      -- the text between the quotes is a piece of the text
      have hquoted : ((reading.textOf only).drop 1).dropLast <:+: reading.textOf only :=
        (List.dropLast_prefix _).isInfix.trans (List.drop_suffix _ _).isInfix
      exact Reading.mentions_of_member (by simp [Vocabulary.nameSets])
        (NameSet.contains_iff.mp hdirective)
        ((withoutBlanks_isInfix hquoted).trans (Reading.textOf_isInfix reading only))
    · exact hrecovered h
  · exact hrecovered h

lemma backed_baseMarks (name : Node) (arguments : Option Node) :
    Backed reading.Mentions (reading.baseMarks name arguments) := by
  rw [Reading.baseMarks]
  refine backed_append.mpr ⟨backed_ite (fun hbase => ?_) backed_nil, backed_bracketMarks _⟩
  exact Reading.mentions_of_nameOf (by simp [Vocabulary.nameSets])
    (Bool.and_eq_true_iff.mp hbase).2

lemma backed_heritage (node : Node) : Backed reading.Mentions (reading.heritage node).emitted := by
  rw [Reading.heritage, heritageItems_eq_plan]
  exact backed_flatMap fun base _ => backed_baseMarks base.1 base.2

lemma backed_moduleStatement (node : Node) (specifiers : List Node) :
    Backed reading.Mentions (reading.moduleStatement node specifiers).emitted := by
  have htype : ∀ bound : Node, reading.isTypeName bound = true → reading.Mentions := fun bound =>
    Reading.mentions_of_nameOf (by simp [Vocabulary.nameSets])
  rw [Reading.moduleStatement]
  split
  · refine backed_append.mpr ⟨backed_mark (by decide), backed_flatMap fun specifier _ => ?_⟩
    split
    · exact backed_ite (htype _) backed_nil
    · exact backed_nil
  · refine backed_append.mpr ⟨backed_mark (by decide), backed_flatMap fun specifier _ => ?_⟩
    split
    · exact backed_append.mpr ⟨backed_claim (by decide), backed_mark_ite (htype _) (by decide)⟩
    · exact backed_nil

/-- The arguments of the element factory are marked only where its name stands. -/
lemma backed_call (node : Node) : Backed reading.Mentions (reading.call node).emitted := by
  refine backed_append.mpr ⟨backed_bracketMarks _, ?_⟩
  split
  · exact backed_mark (by decide)
  · rename_i callee hcallee
    have hpiece := Reading.textOf_isInfix reading callee
    rw [Reading.calleeMarks]
    refine backed_ite (fun hknown => ?_) (backed_ite (fun hfactory => ?_)
      (backed_ite (fun hnamespaced => ?_) (backed_mark (by decide))))
    · rcases Bool.or_eq_true_iff.mp hknown with hhook | hutility
      · exact Reading.mentions_of_isHookCall hhook hpiece
      · exact Reading.mentions_of_spelled (by simp [Vocabulary.nameSets]) hutility hpiece
    · exact Reading.mentions_of_isElementFactory hfactory hpiece
    · exact Reading.mentions_of_isNamespaced hnamespaced hpiece

lemma backed_closingBrace {text : List Char} {start stop : Nat} {brace : List Candidate}
    (h : closingBrace text start stop = .ok brace) : Backed reason brace := by
  rw [closingBrace] at h
  split at h
  · simp only [bind, except_bind_eq_ok, pure, Except.pure, Except.ok.injEq] at h
    obtain ⟨c, -, rfl⟩ := h
    split <;> simp
  · cases h
    exact backed_nil

lemma backed_classDeclaration (node : Node) :
    Backed reason (reading.classDeclaration node).emitted := by
  rw [Reading.classDeclaration, Step.through]
  simp only [backed_append, backed_bracketMarks, and_true]
  refine ⟨backed_mark (by decide), ?_⟩
  split <;> simp

lemma backed_methodDeclaration (site : Site) :
    Backed reason (reading.methodDeclaration site).emitted := by
  rw [Reading.methodDeclaration, Step.through]
  simp only [backed_append, backed_modifierMarks, backed_returnMarks, backed_bracketMarks,
    and_true]
  split <;> simp

/-- Without a rule a node is of the library as the namespace, or as a reference to one of its
types. -/
lemma mentions_of_defaultLayer (h : reading.defaultLayer? site = some .react) :
    reading.Mentions := by
  unfold Reading.defaultLayer? at h
  simp only at h
  split_ifs at h with href htype hmarkup hlibrary
  · have hlayer := Option.some.inj h
    rw [Reading.referenceLayer] at hlayer
    split_ifs at hlayer with hclass hdeclared hnamed
    exact Reading.mentions_of_isLibraryType hnamed (Reading.referenceName_isInfix reading _)
  · cases h
  · cases h
  · exact Reading.mentions_of_library (beq_iff_eq.mp (Bool.and_eq_true_iff.mp hlibrary).2)
  · cases h

lemma backed_defaultStep (site : Site) :
    Backed reading.Mentions (reading.defaultStep site).emitted := by
  rw [Reading.defaultStep, Step.through]
  cases hlayer : reading.defaultLayer? site with
  | none => exact backed_nil
  | some layer =>
      intro c hc hreact
      rw [← (mem_mark.mp hc).2.2.1, hreact] at hlayer
      exact mentions_of_defaultLayer hlayer

/-! ### Steps and walks -/

/-- Whatever the rule, where it does not decline it emits candidates of the library only if the text
mentions it. -/
lemma Rule.backed_apply {rule : Rule} (h : rule.apply reading enums site = .ok (some step)) :
    Backed reading.Mentions step.emitted := by
  -- rules that always answer give their step outright, and the others by their lemmas
  have houtright : ∀ {answer : Step}, Backed reading.Mentions answer.emitted →
      (.ok (some answer) : Except OffsetFault (Option Step)) = .ok (some step) →
      Backed reading.Mentions step.emitted := by
    rintro answer hanswer heq
    cases heq
    exact hanswer
  cases rule with
  | element =>
      obtain ⟨tag, rfl⟩ := genericArrow?_eq_some (Except.ok.inj h)
      simp
  | openingTag => exact houtright (backed_openingTag _) h
  | closingTag => exact houtright (backed_closingTag _) h
  | embedded =>
      obtain ⟨answer, hanswer, heq⟩ := except_map_eq_ok.mp h
      cases heq
      obtain ⟨stop, start, brace, hbrace, rfl⟩ := embedded_eq_ok hanswer
      exact backed_append.mpr ⟨backed_claim (by decide), backed_closingBrace hbrace⟩
  | markupAttribute => exact houtright (backed_markupAttribute _) h
  | decorator => exact houtright (backed_mark (by decide)) h
  | expressionStatement => exact backed_expressionStatement (Except.ok.inj h)
  | awaitExpression =>
      obtain ⟨stop, rfl⟩ := recoveredUsing?_eq_some (Except.ok.inj h)
      simp [Step.through]
  | ambient => exact houtright (backed_mark (by decide)) h
  | variableDeclaration =>
      obtain ⟨stop, rfl⟩ := usingDeclaration?_eq_some (Except.ok.inj h)
      simp [Step.through]
  | heritage => exact houtright (backed_heritage _) h
  | instantiation =>
      obtain ⟨first, rfl⟩ := instantiation?_eq_some (Except.ok.inj h)
      exact backed_baseMarks _ _
  | typeOperator =>
      obtain ⟨operand, rfl⟩ := typeOperator?_eq_some (Except.ok.inj h)
      simp
  | typeAssertion =>
      obtain ⟨i, operand, rfl⟩ := typeAssertion?_eq_some (Except.ok.inj h)
      simp
  | nonNull =>
      obtain ⟨operand, rfl⟩ := nonNull?_eq_some (Except.ok.inj h)
      simp
  | declarator =>
      obtain ⟨typeNode, rfl⟩ := typedDeclarator?_eq_some (Except.ok.inj h)
      simp [Step.through]
  | typedBinding => exact houtright (by simp [typedBindingStep, Step.through]) h
  | propertySignature => exact houtright (by simp [propertySignatureStep, Step.through]) h
  | importStatement => exact houtright (backed_moduleStatement _ _) h
  | exportStatement => exact houtright (backed_moduleStatement _ _) h
  | enumDeclaration => exact houtright (backed_mark (by decide)) h
  | memberAccess =>
      rw [enumAccess?_eq_some (Except.ok.inj h)]
      exact backed_mark (by decide)
  | call => exact houtright (backed_call _) h
  | construction => exact houtright (by simp [Reading.construction, Step.through]) h
  | classDeclaration => exact houtright (backed_classDeclaration _) h
  | functionDeclaration => exact houtright (by simp [Reading.functionDeclaration, Step.through]) h
  | methodDeclaration => exact houtright (backed_methodDeclaration _) h

lemma visit_backed (h : reading.visit enums site = .ok step) :
    Backed reading.Mentions step.emitted := by
  rcases visit_cases h with ⟨rule, -, happly⟩ | ⟨rfl, -⟩
  · exact Rule.backed_apply happly
  · exact backed_defaultStep site

/-- **The library is mentioned wherever it is marked**: a walk emits candidates of the library only
if the text mentions it. -/
lemma Reading.Walks.backed {stack : List Site} {trace : Trace}
    (h : reading.Walks enums stack trace) : Backed reading.Mentions trace.emitted := by
  induction h with
  | done => exact backed_nil
  | step hvisit _ ih => exact backed_append.mpr ⟨visit_backed hvisit, ih⟩

/-- A vocabulary without names in its sets is mentioned only by its namespaces and its element
factory. -/
lemma Reading.mentions_of_empty
    (hempty : ∀ names ∈ reading.vocabulary.nameSets, names = NameSet.empty)
    (h : reading.Mentions) :
    ∃ name ∈ reading.vocabulary.singleNames, name.toList <:+: withoutBlanks reading.text := by
  rcases h with hsingle | ⟨names, hnames, name, hname, -⟩
  · exact hsingle
  · rw [hempty names hnames] at hname
    exact absurd hname (NameSet.not_mem_empty name)

/-- Under a region of the library there is a candidate of the walk that is of the library. -/
lemma exists_emitted_of_react {vocabulary : Vocabulary} {parse : List Char → Node}
    {text : List Char} {result : Classification} {region : Region}
    (hresult : classify vocabulary parse text = .ok result) (hregion : region ∈ result.regions)
    (hreact : region.layer = .react) :
    ∃ document trace, Document.ofTree (SourceText.ofText text) (parse text) = .ok document ∧
      document.walk vocabulary NameSet.empty = .ok trace ∧
      ∃ c ∈ trace.emitted, c.layer = .react := by
  cases hblank : isBlankText text with
  | true =>
      rw [classify_of_blank hblank] at hresult
      cases hresult
      cases hregion
  | false =>
      obtain ⟨document, trace, hdocument, hwalk, hregions⟩ := walk_of_classify hblank hresult
      rw [hregions] at hregion
      have hlayer : HasLayer (resolve (trace.emitted ++ document.commentCandidates) text.length)
          region.start .react := ⟨region, hregion, region.covers_start, hreact⟩
      obtain ⟨-, htop⟩ := (hasLayer_resolve_iff (Document.standard_candidates hwalk)).mp hlayer
      obtain ⟨c, hc, -, hlibrary⟩ := isTop_react_iff.mp htop
      refine ⟨document, trace, hdocument, hwalk, c, ?_, hlibrary⟩
      -- comments are base language
      refine (List.mem_append.mp hc).resolve_right fun hcomment => ?_
      have hbase := (Document.exists_comment_of_mem_commentCandidates hcomment).1
      rw [hlibrary] at hbase
      cases hbase

/-- **The library needs a mention**: under a vocabulary whose sets are empty, a text which without
its blanks holds neither namespace nor the element factory has nothing of the library. A tree on
its boundaries has walks and a classification; whatever the tree, no walk over its document emits a
candidate of the library, and no region of a classification is of the library. -/
theorem library_needs_mention (vocabulary : Vocabulary) (parse : List Char → Node)
    (text : List Char) (hempty : ∀ names ∈ vocabulary.nameSets, names = NameSet.empty)
    (hnone : ∀ name ∈ vocabulary.singleNames, ¬ name.toList <:+: withoutBlanks text) :
    (OnBoundaries text (parse text) → ∀ enums, ∃ document trace result,
      Document.ofTree (SourceText.ofText text) (parse text) = .ok document ∧
        document.walk vocabulary enums = .ok trace ∧
        classify vocabulary parse text = .ok result) ∧
    (∀ document enums trace,
      Document.ofTree (SourceText.ofText text) (parse text) = .ok document →
        document.walk vocabulary enums = .ok trace → ∀ c ∈ trace.emitted, c.layer ≠ .react) ∧
    ∀ result, classify vocabulary parse text = .ok result →
      ∀ region ∈ result.regions, region.layer ≠ .react := by
  have hunmentioned : ¬ Reading.Mentions ⟨text, vocabulary⟩ := by
    intro hmentions
    obtain ⟨name, hname, hspelled⟩ := Reading.mentions_of_empty hempty hmentions
    exact hnone name hname hspelled
  have hwalked : ∀ document enums trace,
      Document.ofTree (SourceText.ofText text) (parse text) = .ok document →
        document.walk vocabulary enums = .ok trace → ∀ c ∈ trace.emitted, c.layer ≠ .react := by
    intro document enums trace hdocument hwalk c hc hreact
    obtain ⟨root, -, rfl⟩ := Document.ofTree_eq_ok_iff.mp hdocument
    exact hunmentioned ((Reading.walk_eq_ok_iff.mp hwalk).backed c hc hreact)
  refine ⟨fun hboundaries enums => exists_run vocabulary enums parse hboundaries, hwalked,
    fun result hresult region hregion hreact => ?_⟩
  obtain ⟨document, trace, hdocument, hwalk, c, hc, hlayer⟩ :=
    exists_emitted_of_react hresult hregion hreact
  exact hwalked document _ trace hdocument hwalk c hc hlayer

/-- A vocabulary without names in its sets. -/
def bareVocabulary : Vocabulary :=
  { Vocabulary.default with
    hooks := NameSet.empty
    types := NameSet.empty
    utilities := NameSet.empty
    jsxAttributes := NameSet.empty
    directives := NameSet.empty }

/-- A directive and the call of a hook, neither of which names the library. -/
def bareText : List Char :=
  "\"use client\";useState(é)".toList

/-- The tree of that text. -/
def bareTree : Node :=
  .construct "program" 0 25
    [.construct "expression_statement" 0 13 [.construct "string" 0 12 [], .token ";" 12 13],
      .construct "expression_statement" 13 25
        [.construct "call_expression" 13 25
          [{ Node.construct "identifier" 13 21 [] with field := some "function" },
            { Node.construct "arguments" 21 25
                [.token "(" 21 22, .construct "identifier" 22 24 [], .token ")" 24 25] with
              field := some "arguments" }]]]

/-- Under that vocabulary neither the directive nor the call has a region of the library. -/
theorem library_needs_mention_bare :
    (∀ names ∈ bareVocabulary.nameSets, names = NameSet.empty) ∧
      (∀ name ∈ bareVocabulary.singleNames, ¬ name.toList <:+: withoutBlanks bareText) ∧
      OnBoundaries bareText bareTree ∧
      ∃ result, classify bareVocabulary (fun _ => bareTree) bareText = .ok result ∧
        ∀ region ∈ result.regions, region.layer ≠ .react := by
  have hempty : ∀ names ∈ bareVocabulary.nameSets, names = NameSet.empty := by decide +kernel
  have hnone : ∀ name ∈ bareVocabulary.singleNames,
      ¬ name.toList <:+: withoutBlanks bareText := by decide +kernel
  have hboundaries : OnBoundaries bareText bareTree := by decide +kernel
  obtain ⟨hexists, -, hregions⟩ :=
    library_needs_mention bareVocabulary (fun _ => bareTree) bareText hempty hnone
  obtain ⟨-, -, result, -, -, hresult⟩ := hexists hboundaries NameSet.empty
  exact ⟨hempty, hnone, hboundaries, result, hresult, hregions result hresult⟩

end SourceLayers
