/-
What more names in a vocabulary change:

* `Vocabulary.Extends`: a vocabulary with more names and the same namespaces, in which the element
  factory has not become a hook or a utility;
* `Upgraded`: of two lists of candidates, the second has those of the first, some of them in the
  library instead, and besides them only candidates of the library;
* `Step.Agrees`: two steps go on to the same sites and declare the same names, and the candidates of
  the second are upgraded if its vocabulary extends that of the first;
* `Rule.apply_agrees`, `visit_agrees`, `Walks.agrees`: so it is for every rule, every step and every
  walk over the same text;
* `Upgraded.layerAtLinear_resolve`: upgraded candidates turn offsets over to the library and change
  nothing else.

Main statement: `classify_extends`, that more names only turn characters over to the library.
-/
import Mathlib.Tactic
import SourceLayers.Proofs.Classification
import SourceLayers.Proofs.Precedence

namespace SourceLayers

/-! ### Vocabularies with more names -/

lemma NameSet.contains_mono {a b : NameSet} (h : ∀ name ∈ a, name ∈ b) {name : String}
    (hname : a.contains name = true) : b.contains name = true :=
  contains_iff.mpr (h name (contains_iff.mp hname))

namespace Vocabulary

/-- Whether a callee is a hook or a utility. -/
def isKnownCallee (vocabulary : Vocabulary) (callee : List Char) : Bool :=
  vocabulary.isHookCall callee || vocabulary.utilities.contains (String.ofList callee)

/-- A vocabulary has the names of another one and perhaps more, with the same namespaces and the
same element factory, which has not become a hook or a utility. -/
structure Extends (small large : Vocabulary) : Prop where
  library : large.library = small.library
  markup : large.markup = small.markup
  elementFactory : large.elementFactory = small.elementFactory
  hooks : ∀ name ∈ small.hooks, name ∈ large.hooks
  types : ∀ name ∈ small.types, name ∈ large.types
  utilities : ∀ name ∈ small.utilities, name ∈ large.utilities
  jsxAttributes : ∀ name ∈ small.jsxAttributes, name ∈ large.jsxAttributes
  directives : ∀ name ∈ small.directives, name ∈ large.directives
  keepsFactory : ∀ name, name ∈ large.hooks ∨ name ∈ large.utilities →
    ¬ (name ∈ small.hooks ∨ name ∈ small.utilities) →
      name ≠ small.elementFactory ∧
        name ≠ small.library.val ++ "." ++ small.elementFactory

namespace Extends

variable {small large : Vocabulary} {name : List Char}

lemma isNamespaced_eq (h : small.Extends large) :
    large.isNamespaced name = small.isNamespaced name := by
  rw [isNamespaced, isNamespaced, h.library]

lemma isElementFactory_eq (h : small.Extends large) :
    large.isElementFactory name = small.isElementFactory name := by
  rw [isElementFactory, isElementFactory, h.library, h.elementFactory]

lemma isLibraryType_mono (h : small.Extends large) (hname : small.isLibraryType name = true) :
    large.isLibraryType name = true := by
  rw [isLibraryType, Bool.or_eq_true, Bool.or_eq_true, NameSet.contains_iff] at hname ⊢
  rw [h.isNamespaced_eq, h.markup]
  exact hname.imp_right (h.types _)

/-- Callees by the namespace of the library are the same in both; only the sets of names differ. -/
lemma isKnownCallee_iff (h : small.Extends large) :
    large.isKnownCallee name = true ↔
      small.isKnownCallee name = true ∨
        String.ofList name ∈ large.hooks ∨ String.ofList name ∈ large.utilities := by
  have hhooks := h.hooks (String.ofList name)
  have hutilities := h.utilities (String.ofList name)
  simp only [isKnownCallee, isHookCall, Bool.or_eq_true, NameSet.contains_iff, h.library]
  tauto

/-- The element factory is known as a hook or a utility in both or in neither. -/
lemma isKnownCallee_eq_of_factory (h : small.Extends large)
    (hfactory : small.isElementFactory name = true) :
    large.isKnownCallee name = small.isKnownCallee name := by
  rw [Bool.eq_iff_iff, h.isKnownCallee_iff, or_iff_left_iff_imp]
  intro hlarge
  by_contra hunknown
  have hsets : ¬ (String.ofList name ∈ small.hooks ∨ String.ofList name ∈ small.utilities) := by
    rintro (hmem | hmem)
    · exact hunknown (by simp [isKnownCallee, isHookCall, hmem])
    · exact hunknown (by simp [isKnownCallee, hmem])
  obtain ⟨hbare, hnamespaced⟩ := h.keepsFactory _ hlarge hsets
  rw [isElementFactory, Bool.or_eq_true, beq_iff_eq, beq_iff_eq] at hfactory
  rcases hfactory with rfl | rfl
  · exact hbare String.ofList_toList
  · exact hnamespaced (by simp [String.append_assoc])

end Extends

end Vocabulary

/-! ### Upgraded candidates -/

/-- The candidate of the library on the same bounds. -/
def Candidate.inLibrary (c : Candidate) : Candidate :=
  { c with layer := .react, priority := Layer.react.priority }

/-- The new candidates are the old ones, some of them in the library instead, and besides them only
candidates of the library. -/
structure Upgraded (old new : List Candidate) : Prop where
  kept : ∀ c ∈ old, c ∈ new ∨ c.inLibrary ∈ new
  added : ∀ c ∈ new, c ∈ old ∨ c.layer = .react

namespace Upgraded

variable {old new : List Candidate}

lemma refl (candidates : List Candidate) : Upgraded candidates candidates :=
  ⟨fun _ hc => Or.inl hc, fun _ hc => Or.inl hc⟩

lemma append {old' new' : List Candidate} (h : Upgraded old new) (h' : Upgraded old' new') :
    Upgraded (old ++ old') (new ++ new') := by
  have hkept := h.kept
  have hkept' := h'.kept
  have hadded := h.added
  have hadded' := h'.added
  constructor
  · intro c hc
    simp only [List.mem_append] at hc ⊢
    grind
  · intro c hc
    simp only [List.mem_append] at hc ⊢
    grind

lemma flatMap {α : Type} {items : List α} {f g : α → List Candidate}
    (h : ∀ item ∈ items, Upgraded (f item) (g item)) :
    Upgraded (items.flatMap f) (items.flatMap g) := by
  induction items with
  | nil => exact refl []
  | cons first rest ih =>
      rw [List.flatMap_cons, List.flatMap_cons]
      exact (h first List.mem_cons_self).append
        (ih fun item hitem => h item (List.mem_cons_of_mem _ hitem))

/-- A node of whatever layer may be marked as the library. -/
lemma mark_react (node : Node) (layer : Layer) :
    Upgraded (mark node layer) (mark node .react) := by
  constructor
  · intro c hc
    obtain ⟨hstart, hstop, -, -⟩ := mem_mark.mp hc
    exact Or.inr (mem_mark.mpr ⟨hstart, hstop, rfl, rfl⟩)
  · intro c hc
    exact Or.inr (mem_mark.mp hc).2.2.1

/-- A node that was not marked at all may be marked as the library. -/
lemma nil_mark_react (node : Node) : Upgraded [] (mark node .react) :=
  ⟨by simp, fun _ hc => Or.inr (mem_mark.mp hc).2.2.1⟩

/-- A test that holds more often chooses the upgraded candidates more often. -/
lemma ite {p q : Prop} [Decidable p] [Decidable q] (hpq : p → q) (h : Upgraded old new) :
    Upgraded (if p then new else old) (if q then new else old) := by
  by_cases hq : q
  · rw [if_pos hq]
    split
    · exact refl new
    · exact h
  · rw [if_neg hq, if_neg fun hp => hq (hpq hp)]
    exact refl old

/-- The same for the layer of a mark. -/
lemma mark_ite {p q : Prop} [Decidable p] [Decidable q] (hpq : p → q) (node : Node)
    (layer : Layer) :
    Upgraded (mark node (if p then .react else layer))
      (mark node (if q then .react else layer)) := by
  rw [apply_ite (mark node), apply_ite (mark node)]
  exact ite hpq (mark_react node layer)

end Upgraded

/-! ### Rules under two vocabularies -/

/-- Two steps go on to the same sites and declare the same names, and the candidates of the second
are upgraded if its vocabulary extends that of the first. -/
structure Step.Agrees (small large : Vocabulary) (a b : Step) : Prop where
  fates : b.fates = a.fates
  declared : b.declared = a.declared
  upgraded : small.Extends large → Upgraded a.emitted b.emitted

variable {small large : Vocabulary} {text : List Char} {enums : NameSet} {site : Site}

lemma Step.Agrees.refl (step : Step) : step.Agrees small large step :=
  ⟨rfl, rfl, fun _ => Upgraded.refl _⟩

/-- The answers of a rule: both decline, or both give steps that agree. -/
def Agree (small large : Vocabulary) (answer other : Option Step) : Prop :=
  Option.Rel (Step.Agrees small large) answer other

lemma Agree.refl (answer : Option Step) : Agree small large answer answer := by
  cases answer with
  | none => exact Option.Rel.none
  | some step => exact Option.Rel.some (Step.Agrees.refl step)

/-- Steps through the content of a node agree if their candidates are upgraded. -/
lemma agrees_through {node : Node} {old new : List Candidate}
    (h : small.Extends large → Upgraded old new) :
    (Step.through node old).Agrees small large (Step.through node new) :=
  ⟨rfl, rfl, h⟩

lemma agrees_stop {old new : List Candidate} (h : small.Extends large → Upgraded old new) :
    (Step.stop old).Agrees small large (Step.stop new) :=
  ⟨rfl, rfl, h⟩

namespace Reading

lemma isNamespacedTag_eq (h : small.Extends large) (name : Node) :
    isNamespacedTag ⟨text, large⟩ name = isNamespacedTag ⟨text, small⟩ name := by
  rw [isNamespacedTag, isNamespacedTag, h.library]
  rfl

lemma openingTag_agrees (node : Node) :
    (openingTag ⟨text, small⟩ node).Agrees small large (openingTag ⟨text, large⟩ node) := by
  rw [openingTag, openingTag]
  cases node.field? "name" with
  | none => exact Step.Agrees.refl _
  | some name =>
      refine agrees_through fun h => ?_
      rw [isNamespacedTag_eq h]
      exact Upgraded.refl _

/-- A closing tag is never gone into, whichever way it is marked. -/
lemma closingTag_agrees (node : Node) :
    (closingTag ⟨text, small⟩ node).Agrees small large (closingTag ⟨text, large⟩ node) := by
  refine ⟨?_, ?_, fun h => ?_⟩
  · rw [closingTag, closingTag]
    split <;> split <;> rfl
  · rw [closingTag, closingTag]
    split <;> split <;> rfl
  · have hsame : isNamespacedTag ⟨text, large⟩ = isNamespacedTag ⟨text, small⟩ :=
      funext (isNamespacedTag_eq h)
    rw [closingTag, closingTag, hsame]
    exact Upgraded.refl _

lemma markupAttribute_agrees (node : Node) :
    (markupAttribute ⟨text, small⟩ node).Agrees small large
      (markupAttribute ⟨text, large⟩ node) := by
  rw [markupAttribute, markupAttribute]
  rcases node.content with _ | ⟨name, _ | ⟨value, rest⟩⟩
  · exact Step.Agrees.refl _
  · refine agrees_stop fun h => Upgraded.mark_ite ?_ name .jsx
    exact NameSet.contains_mono h.jsxAttributes
  · have hname : small.Extends large → Upgraded
        (mark name (if small.jsxAttributes.contains (nameOf ⟨text, small⟩ name) then .react
          else .jsx))
        (mark name (if large.jsxAttributes.contains (nameOf ⟨text, large⟩ name) then .react
          else .jsx)) := by
      intro h
      refine Upgraded.mark_ite ?_ name .jsx
      exact NameSet.contains_mono h.jsxAttributes
    simp only
    split
    · exact agrees_stop fun h => ((hname h).append (Upgraded.refl _)).append (Upgraded.refl _)
    · exact ⟨rfl, rfl, fun h => (hname h).append (Upgraded.refl _)⟩

lemma expressionStatement?_agree (node : Node) :
    Agree small large (expressionStatement? ⟨text, small⟩ node)
      (expressionStatement? ⟨text, large⟩ node) := by
  rw [expressionStatement?, expressionStatement?]
  split
  · split
    · refine Option.Rel.some (agrees_stop fun h => Upgraded.mark_ite ?_ node .javascript)
      exact NameSet.contains_mono h.directives
    · exact Agree.refl _
  · exact Agree.refl _

lemma baseMarks_upgraded (h : small.Extends large) (name : Node) (arguments : Option Node) :
    Upgraded (baseMarks ⟨text, small⟩ name arguments)
      (baseMarks ⟨text, large⟩ name arguments) := by
  rw [baseMarks, baseMarks]
  refine (Upgraded.ite ?_ (Upgraded.nil_mark_react name)).append (Upgraded.refl _)
  simp only [Bool.and_eq_true, NameSet.contains_iff]
  exact And.imp_right (h.types _)

/-- A clause has the same plan under all vocabularies, and each base may be marked. -/
lemma heritage_agrees (node : Node) :
    (heritage ⟨text, small⟩ node).Agrees small large (heritage ⟨text, large⟩ node) := by
  rw [heritage, heritage, heritageItems_eq_plan, heritageItems_eq_plan]
  exact ⟨rfl, rfl, fun h => Upgraded.flatMap fun base _ => baseMarks_upgraded h base.1 base.2⟩

lemma instantiation?_agree (node : Node) :
    Agree small large (instantiation? ⟨text, small⟩ node)
      (instantiation? ⟨text, large⟩ node) := by
  rw [instantiation?, instantiation?]
  cases node.content.head? with
  | none => exact Option.Rel.none
  | some first => exact Option.Rel.some (agrees_through fun h => baseMarks_upgraded h first _)

lemma moduleStatement_agrees (node : Node) (specifiers : List Node) :
    (moduleStatement ⟨text, small⟩ node specifiers).Agrees small large
      (moduleStatement ⟨text, large⟩ node specifiers) := by
  have htype : small.Extends large → ∀ bound : Node,
      isTypeName ⟨text, small⟩ bound = true → isTypeName ⟨text, large⟩ bound = true :=
    fun h _ => NameSet.contains_mono h.types
  rw [moduleStatement, moduleStatement]
  split
  · refine agrees_stop fun h => (Upgraded.refl _).append (Upgraded.flatMap fun specifier _ => ?_)
    split
    · exact Upgraded.ite (htype h _) (Upgraded.nil_mark_react _)
    · exact Upgraded.refl _
  · refine agrees_through fun h => (Upgraded.refl _).append (Upgraded.flatMap fun specifier _ => ?_)
    split
    · exact (Upgraded.refl _).append (Upgraded.mark_ite (htype h _) _ _)
    · exact Upgraded.refl _

lemma factoryMarks_eq (h : small.Extends large) (arguments : Option Node) :
    factoryMarks ⟨text, large⟩ arguments = factoryMarks ⟨text, small⟩ arguments := by
  have hcomponent : componentMarks ⟨text, large⟩ = componentMarks ⟨text, small⟩ := by
    funext first
    rw [componentMarks, componentMarks, h.library]
    rfl
  rw [factoryMarks, factoryMarks, hcomponent]
  rfl

/-- The cascade of a call: more names can only turn the last case, where the callee is not of the
library, into the first one. -/
lemma calleeMarks_upgraded (h : small.Extends large) (node callee : Node) :
    Upgraded (calleeMarks ⟨text, small⟩ node callee)
      (calleeMarks ⟨text, large⟩ node callee) := by
  let name := withoutBlanks (textOf ⟨text, small⟩ callee)
  -- the cascade, with what follows on each test
  have hcascade : ∀ vocabulary : Vocabulary, calleeMarks ⟨text, vocabulary⟩ node callee =
      if vocabulary.isKnownCallee name then mark callee .react ++ mark node .javascript
      else if vocabulary.isElementFactory name then
        mark callee .react ++ factoryMarks ⟨text, vocabulary⟩ (node.field? "arguments")
      else if vocabulary.isNamespaced name then mark callee .react ++ mark node .javascript
      else mark node .javascript := fun _ => rfl
  rw [hcascade, hcascade, h.isElementFactory_eq, h.isNamespaced_eq, factoryMarks_eq h]
  have hmarked : Upgraded (mark node .javascript) (mark callee .react ++ mark node .javascript) :=
    (Upgraded.nil_mark_react callee).append (Upgraded.refl _)
  by_cases hfactory : small.isElementFactory name = true
  · rw [h.isKnownCallee_eq_of_factory hfactory]
    exact Upgraded.refl _
  · rw [if_neg hfactory]
    by_cases hlarge : large.isKnownCallee name = true
    · rw [if_pos hlarge]
      split
      · exact Upgraded.refl _
      · split
        · exact Upgraded.refl _
        · exact hmarked
    · have hsmall : ¬ small.isKnownCallee name = true := fun hknown =>
        hlarge (h.isKnownCallee_iff.mpr (Or.inl hknown))
      rw [if_neg hlarge, if_neg hsmall]
      exact Upgraded.refl _

lemma call_agrees (node : Node) :
    (call ⟨text, small⟩ node).Agrees small large (call ⟨text, large⟩ node) := by
  refine agrees_through fun h => (Upgraded.refl _).append ?_
  cases node.field? "function" with
  | none => exact Upgraded.refl _
  | some callee => exact calleeMarks_upgraded h node callee

/-- A reference to a type keeps its layer or comes to the library. -/
lemma referenceLayer_upgraded (h : small.Extends large) (text : List Char) (site : Site) :
    referenceLayer ⟨text, large⟩ site = referenceLayer ⟨text, small⟩ site ∨
      referenceLayer ⟨text, large⟩ site = .react := by
  rw [referenceLayer, referenceLayer]
  split
  · exact Or.inl rfl
  · split
    · exact Or.inl rfl
    · by_cases hlarge :
          large.isLibraryType (referenceName ⟨text, large⟩ site.node) = true
      · exact Or.inr (if_pos hlarge)
      · have hsmall : ¬ small.isLibraryType (referenceName ⟨text, small⟩ site.node) = true :=
          fun htype => hlarge (h.isLibraryType_mono htype)
        exact Or.inl ((if_neg hlarge).trans (if_neg hsmall).symm)

lemma defaultStep_agrees (site : Site) :
    (defaultStep ⟨text, small⟩ site).Agrees small large (defaultStep ⟨text, large⟩ site) := by
  refine agrees_through fun h => ?_
  have hlayers : ∀ vocabulary : Vocabulary, defaultLayer? ⟨text, vocabulary⟩ site =
      if referenceKinds.contains site.node.kind then
        some (referenceLayer ⟨text, vocabulary⟩ site)
      else if typeKinds.contains site.node.kind then some .typescript
      else if markupKinds.contains site.node.kind then some .jsx
      else if site.node.kind == "identifier" &&
          nameOf ⟨text, small⟩ site.node == vocabulary.library.val then some .react
      else if baseKinds.contains site.node.kind then some .javascript
      else none := fun _ => rfl
  rw [hlayers, hlayers, h.library]
  split_ifs with href
  · rcases referenceLayer_upgraded h text site with hsame | hlibrary
    · rw [hsame]
      exact Upgraded.refl _
    · rw [hlibrary]
      exact Upgraded.mark_react _ _
  all_goals exact Upgraded.refl _

end Reading

/-! ### Steps and walks under two vocabularies -/

/-- Whatever the rule, its answers under two vocabularies agree. Most rules read the text alone. -/
lemma Rule.apply_agrees (small large : Vocabulary) {rule : Rule} {answer : Option Step}
    (h : rule.apply ⟨text, small⟩ enums site = .ok answer) :
    ∃ other, rule.apply ⟨text, large⟩ enums site = .ok other ∧ Agree small large answer other := by
  have houtright : ∀ {a b : Step}, a.Agrees small large b →
      (.ok (some a) : Except OffsetFault (Option Step)) = .ok answer →
      ∃ other, (.ok (some b) : Except OffsetFault (Option Step)) = .ok other ∧
        Agree small large answer other := by
    rintro a b hab heq
    cases heq
    exact ⟨some b, rfl, Option.Rel.some hab⟩
  cases rule with
  | openingTag => exact houtright (Reading.openingTag_agrees site.node) h
  | closingTag => exact houtright (Reading.closingTag_agrees site.node) h
  | markupAttribute => exact houtright (Reading.markupAttribute_agrees site.node) h
  | heritage => exact houtright (Reading.heritage_agrees site.node) h
  | importStatement => exact houtright (Reading.moduleStatement_agrees site.node _) h
  | exportStatement => exact houtright (Reading.moduleStatement_agrees site.node _) h
  | call => exact houtright (Reading.call_agrees site.node) h
  | expressionStatement =>
      cases h
      exact ⟨_, rfl, Reading.expressionStatement?_agree site.node⟩
  | instantiation =>
      cases h
      exact ⟨_, rfl, Reading.instantiation?_agree site.node⟩
  | _ => exact ⟨answer, h, Agree.refl answer⟩

/-- The steps at a node under two vocabularies agree. -/
lemma visit_agrees (small large : Vocabulary) {step : Step}
    (h : Reading.visit ⟨text, small⟩ enums site = .ok step) :
    ∃ other, Reading.visit ⟨text, large⟩ enums site = .ok other ∧
      step.Agrees small large other := by
  rw [Reading.visit] at h ⊢
  cases hrule : Rule.ofKind? site.node.kind with
  | none =>
      rw [hrule] at h
      cases h
      exact ⟨_, rfl, Reading.defaultStep_agrees site⟩
  | some rule =>
      rw [hrule] at h
      obtain ⟨answer, hanswer, rfl⟩ := except_map_eq_ok.mp h
      obtain ⟨other, hother, hagree⟩ := Rule.apply_agrees small large hanswer
      refine ⟨_, except_map_eq_ok.mpr ⟨other, hother, rfl⟩, ?_⟩
      cases hagree with
      | none => exact Reading.defaultStep_agrees site
      | some hsteps => exact hsteps

/-- **Walks under two vocabularies**: they visit the same sites and know the same names at the end,
and more names upgrade the candidates. -/
lemma Reading.Walks.agrees {stack : List Site} {trace : Trace} (small large : Vocabulary)
    (h : Reading.Walks ⟨text, small⟩ enums stack trace) :
    ∃ other, Reading.Walks ⟨text, large⟩ enums stack other ∧ other.visited = trace.visited ∧
      other.enums = trace.enums ∧
      (small.Extends large → Upgraded trace.emitted other.emitted) := by
  induction h with
  | done enums => exact ⟨_, Walks.done enums, rfl, rfl, fun _ => Upgraded.refl _⟩
  | @step enums site stack step rest hvisit hwalk ih =>
      obtain ⟨other, hother, hagrees⟩ := visit_agrees small large hvisit
      obtain ⟨otherRest, hwalk', hvisited, henums, hupgraded⟩ := ih
      rw [← hagrees.fates, ← hagrees.declared] at hwalk'
      refine ⟨_, Walks.step hother hwalk', ?_, henums, fun hextends => ?_⟩
      · simp only [hvisited]
      · exact (hagrees.upgraded hextends).append (hupgraded hextends)

/-! ### Upgraded partitions -/

/-- Upgraded candidates turn offsets over to the library and change nothing else: an offset of the
library stays there, and one that is not of the library afterwards has kept its layer or gap. -/
lemma Upgraded.layerAtLinear_resolve {old new : List Candidate} (h : Upgraded old new)
    (hold : Standard old) (hnew : Standard new) (length : Int) (p : Nat) :
    (layerAtLinear (resolve old length) p = some .react →
      layerAtLinear (resolve new length) p = some .react) ∧
    (layerAtLinear (resolve new length) p ≠ some .react →
      layerAtLinear (resolve old length) p = layerAtLinear (resolve new length) p) := by
  have hlibrary : ∀ c ∈ old, c.Covers p → c ∈ new ∨ IsTop new p .react := by
    intro c hc hcover
    rcases h.kept c hc with hkept | hmoved
    · exact Or.inl hkept
    · exact Or.inr (isTop_react_iff.mpr ⟨_, hmoved, hcover, rfl⟩)
  simp only [ne_eq, layerAtLinear_resolve_eq_some_iff hold, layerAtLinear_resolve_eq_some_iff hnew]
  constructor
  · rintro ⟨hp, htop⟩
    obtain ⟨c, hc, hcover, hlayer⟩ := isTop_react_iff.mp htop
    refine ⟨hp, ?_⟩
    rcases hlibrary c hc hcover with hkept | hmoved
    · exact isTop_react_iff.mpr ⟨c, hkept, hcover, hlayer⟩
    · exact hmoved
  · intro hother
    apply Option.ext
    intro layer
    rw [layerAtLinear_resolve_eq_some_iff hold, layerAtLinear_resolve_eq_some_iff hnew]
    refine and_congr_right fun hp => isTop_congr fun c hcover => ?_
    -- where the library is not on top, the candidates on the offset are the same
    have hnone : ¬ IsTop new p .react := fun htop => hother ⟨hp, htop⟩
    constructor
    · intro hc
      exact (hlibrary c hc hcover).resolve_right hnone
    · intro hc
      exact (h.added c hc).resolve_right fun hlayer =>
        hnone (isTop_react_iff.mpr ⟨c, hc, hcover, hlayer⟩)

/-- **More names only turn characters over to the library**: under a vocabulary that extends another
one, a text whose tree lies on its boundaries has a classification, and whatever has one under the
smaller vocabulary has one under the larger. What was of the library stays of the library, and what
is not of the library under the larger vocabulary has the same layer, or is the same gap, under the
smaller. -/
theorem classify_extends (small large : Vocabulary) (parse : List Char → Node) (text : List Char)
    (h : small.Extends large) :
    (OnBoundaries text (parse text) → ∃ result, classify small parse text = .ok result) ∧
    ∀ result, classify small parse text = .ok result →
      ∃ grown, classify large parse text = .ok grown ∧
        ∀ p : Nat,
          (layerAtLinear result.regions p = some .react →
            layerAtLinear grown.regions p = some .react) ∧
          (layerAtLinear grown.regions p ≠ some .react →
            layerAtLinear result.regions p = layerAtLinear grown.regions p) := by
  refine ⟨fun hboundaries => ?_, fun result hresult => ?_⟩
  · obtain ⟨document, hdocument, -, hwithin⟩ := Document.exists_document hboundaries
    exact exists_classify small hdocument hwithin
  cases hblank : isBlankText text with
  | true =>
      rw [classify_of_blank hblank] at hresult ⊢
      cases hresult
      exact ⟨_, rfl, fun p => ⟨id, fun _ => rfl⟩⟩
  | false =>
      obtain ⟨document, trace, hdocument, hwalk, hregions⟩ := walk_of_classify hblank hresult
      obtain ⟨other, hwalks, -, -, hupgraded⟩ :=
        (Reading.walk_eq_ok_iff.mp hwalk).agrees small large
      have hother : document.walk large NameSet.empty = .ok other :=
        Reading.walk_eq_ok_iff.mpr hwalks
      obtain ⟨grown, hgrown, hgrownRegions⟩ := classify_of_walk hblank hdocument hother
      refine ⟨grown, hgrown, fun p => ?_⟩
      rw [hregions, hgrownRegions]
      exact ((hupgraded h).append (Upgraded.refl _)).layerAtLinear_resolve
        (Document.standard_candidates hwalk) (Document.standard_candidates hother) _ p

/-- The names of the library with one more hook. -/
def formVocabulary : Vocabulary :=
  { Vocabulary.default with hooks := Vocabulary.default.hooks.insert "useForm" }

/-- A call of that hook with an element built in its arguments. -/
def formText : List Char :=
  "useForm(React.createElement(é))".toList

/-- The tree of the call. -/
def formTree : Node :=
  .construct "program" 0 32
    [.construct "expression_statement" 0 32
      [.construct "call_expression" 0 32
        [{ Node.construct "identifier" 0 7 [] with field := some "function" },
          { Node.construct "arguments" 7 32
              [.token "(" 7 8,
                .construct "call_expression" 8 31
                  [{ Node.construct "member_expression" 8 27 [] with field := some "function" },
                    { Node.construct "arguments" 27 31
                        [.token "(" 27 28, .construct "identifier" 28 30 [], .token ")" 30 31] with
                      field := some "arguments" }],
                .token ")" 31 32] with
            field := some "arguments" }]]]

/-- What is the library's without the new hook is the library's with it. -/
theorem classify_extends_form :
    Vocabulary.default.Extends formVocabulary ∧ OnBoundaries formText formTree ∧
      ∃ result grown, classify .default (fun _ => formTree) formText = .ok result ∧
        classify formVocabulary (fun _ => formTree) formText = .ok grown ∧
        ∀ p : Nat, layerAtLinear result.regions p = some .react →
          layerAtLinear grown.regions p = some .react := by
  have hextends : Vocabulary.default.Extends formVocabulary := by
    refine ⟨rfl, rfl, rfl, fun name hname => ?_, fun _ h => h, fun _ h => h, fun _ h => h,
      fun _ h => h, fun name hlarge hsmall => ?_⟩
    · exact NameSet.mem_insert.mpr (Or.inr hname)
    · rcases hlarge with hhook | hutility
      · obtain rfl := (NameSet.mem_insert.mp hhook).resolve_right fun h => hsmall (Or.inl h)
        decide +kernel
      · exact absurd (Or.inr hutility) hsmall
  have hboundaries : OnBoundaries formText formTree := by decide +kernel
  obtain ⟨hexists, hgrows⟩ :=
    classify_extends .default formVocabulary (fun _ => formTree) formText hextends
  obtain ⟨result, hresult⟩ := hexists hboundaries
  obtain ⟨grown, hgrown, hlayers⟩ := hgrows result hresult
  exact ⟨hextends, hboundaries, result, grown, hresult, hgrown, fun p => (hlayers p).1⟩

end SourceLayers
