/-
Runs of overrides:

* `Draft`: a vocabulary whose namespaces may be any texts. An override merges its fields into the
  draft and then checks the whole of it, what it did not touch included (`Draft.override`);
* `Draft.IsValid`: both namespaces are identifiers. No run leaves the valid drafts
  (`isValid_overrideAll`), and these are the drafts of vocabularies (`exists_vocabulary`);
* `draft_override`: to merge and to check is what the override of a vocabulary does, down to the
  faults, and so it is along every run (`draft_overrideAll`);
* `exists_override_iff`: valid drafts accept the same overrides;
* `Override.apply_apply`: an override that is applied again changes nothing.

Main statement: `overrideAll_settled`.
-/
import Mathlib.Tactic
import SourceLayers.Proofs.Outcome
import SourceLayers.Vocabulary.Override

namespace SourceLayers

/-! ### Drafts -/

/-- A vocabulary whose namespaces may be any texts. -/
structure Draft where
  hooks : NameSet
  types : NameSet
  utilities : NameSet
  jsxAttributes : NameSet
  directives : NameSet
  library : String
  markup : String
  elementFactory : String

/-- A vocabulary as a draft. -/
def Vocabulary.draft (vocabulary : Vocabulary) : Draft where
  hooks := vocabulary.hooks
  types := vocabulary.types
  utilities := vocabulary.utilities
  jsxAttributes := vocabulary.jsxAttributes
  directives := vocabulary.directives
  library := vocabulary.library.val
  markup := vocabulary.markup.val
  elementFactory := vocabulary.elementFactory

/-- Refuses a text that is no identifier. -/
def checkIdentifier (field text : String) : Except OverrideFault Unit :=
  if isIdentifier text then .ok () else .error (.notIdentifier field text)

namespace Draft

/-- Both namespaces are identifiers. -/
structure IsValid (draft : Draft) : Prop where
  library : isIdentifier draft.library = true
  markup : isIdentifier draft.markup = true

/-- The draft with the fields of an override. What is not given stays, and no name is checked. -/
def merge (draft : Draft) (value : Json) : Except OverrideFault Draft :=
  match value with
  | .obj fields =>
    match unknownNames fields overrideFields with
    | [] => do
      let hooks ← readEdit fields "hooks"
      let types ← readEdit fields "types"
      let utilities ← readEdit fields "utilities"
      let jsxAttributes ← readEdit fields "jsx_attributes"
      let directives ← readEdit fields "directives"
      let library ← readName fields "namespace"
      let markup ← readName fields "markup_namespace"
      let elementFactory ← readName fields "element_factory"
      return {
        hooks := editSet hooks draft.hooks
        types := editSet types draft.types
        utilities := editSet utilities draft.utilities
        jsxAttributes := editSet jsxAttributes draft.jsxAttributes
        directives := editSet directives draft.directives
        library := library.getD draft.library
        markup := markup.getD draft.markup
        elementFactory := elementFactory.getD draft.elementFactory }
    | names => .error (.unknownFields names)
  | _ => .error .notObject

/-- The draft itself, provided that it is valid. -/
def check (draft : Draft) : Except OverrideFault Draft := do
  checkIdentifier "namespace" draft.library
  checkIdentifier "markup_namespace" draft.markup
  return draft

/-- The draft after an override: its fields are merged, and all of the outcome is checked. -/
def override (draft : Draft) (value : Json) : Except OverrideFault Draft :=
  draft.merge value >>= check

/-- The draft after a list of overrides, one after the other; a refused one changes nothing. -/
def overrideAll (draft : Draft) (values : List Json) : Draft :=
  values.foldl
    (fun current value =>
      match current.override value with
      | .ok next => next
      | .error _ => current)
    draft

variable {draft next : Draft} {value : Json}

/-! ### Validity -/

lemma checkIdentifier_eq_ok_iff {field text : String} {done : Unit} :
    checkIdentifier field text = .ok done ↔ isIdentifier text = true := by
  rw [checkIdentifier]
  split <;> simp_all

lemma check_eq_ok_iff : draft.check = .ok next ↔ draft.IsValid ∧ draft = next := by
  constructor
  · intro h
    obtain ⟨_, hlibrary, h⟩ := except_bind_eq_ok.mp h
    obtain ⟨_, hmarkup, h⟩ := except_bind_eq_ok.mp h
    cases h
    exact ⟨⟨checkIdentifier_eq_ok_iff.mp hlibrary, checkIdentifier_eq_ok_iff.mp hmarkup⟩, rfl⟩
  · rintro ⟨hvalid, rfl⟩
    refine except_bind_eq_ok.mpr ⟨(), checkIdentifier_eq_ok_iff.mpr hvalid.library, ?_⟩
    exact except_bind_eq_ok.mpr ⟨(), checkIdentifier_eq_ok_iff.mpr hvalid.markup, rfl⟩

/-- Whatever an override leads to is valid. -/
lemma isValid_of_override (h : draft.override value = .ok next) : next.IsValid := by
  obtain ⟨merged, -, hcheck⟩ := except_bind_eq_ok.mp h
  obtain ⟨hvalid, rfl⟩ := check_eq_ok_iff.mp hcheck
  exact hvalid

/-- No run leaves the valid drafts. -/
lemma isValid_overrideAll (h : draft.IsValid) (values : List Json) :
    (draft.overrideAll values).IsValid := by
  induction values generalizing draft with
  | nil => exact h
  | cons value rest ih =>
      rw [overrideAll, List.foldl_cons]
      cases hoverride : draft.override value with
      | error fault => exact ih h
      | ok next => exact ih (isValid_of_override hoverride)

/-- The valid drafts are those of vocabularies. -/
lemma exists_vocabulary (h : draft.IsValid) :
    ∃ vocabulary : Vocabulary, vocabulary.draft = draft :=
  ⟨{ draft with library := ⟨draft.library, h.library⟩, markup := ⟨draft.markup, h.markup⟩ }, rfl⟩

end Draft

/-! ### Vocabularies and their drafts -/

/-- To read an identifier and to go on is to check the text that results, the old one if none is
given, and to go on alike. -/
lemma readIdentifier_bind {α : Type} {field : String} {text : Option String} (old : Identifier)
    {continuation : Option Identifier → Except OverrideFault α} {rest : Except OverrideFault α}
    (h : ∀ identifier, (identifier.getD old).val = text.getD old.val →
      continuation identifier = rest) :
    readIdentifier field text >>= continuation =
      checkIdentifier field (text.getD old.val) >>= fun _ => rest := by
  cases text with
  | none =>
      rw [Option.getD_none, checkIdentifier, if_pos old.property]
      exact h none rfl
  | some text =>
      rw [readIdentifier, Identifier.ofString?, Option.getD_some, checkIdentifier]
      by_cases htext : isIdentifier text = true
      · rw [dif_pos htext, if_pos htext]
        exact h (some ⟨text, htext⟩) rfl
      · rw [dif_neg htext, if_neg htext]
        rfl

/-- **To merge and to check** is what the override of a vocabulary does: on its draft both lead to
the same, and both fault alike. -/
lemma draft_override (base : Vocabulary) (value : Json) :
    base.draft.override value = Vocabulary.draft <$> base.override value := by
  cases value with
  | obj fields =>
      rw [Draft.override, Draft.merge, Vocabulary.override, Override.ofJson]
      cases unknownNames fields overrideFields with
      | cons name rest => rfl
      | nil =>
          simp only [map_bind, bind_assoc, map_pure, pure_bind]
          refine bind_congr fun hooks => bind_congr fun types => bind_congr fun utilities =>
            bind_congr fun jsxAttributes => bind_congr fun directives => bind_congr fun library =>
            bind_congr fun markup => bind_congr fun elementFactory => ?_
          -- what is left are the two namespaces: read on one side, checked on the other
          rw [Draft.check, eq_comm]
          refine readIdentifier_bind base.library fun identifier hlibrary => ?_
          refine readIdentifier_bind base.markup fun other hmarkup => ?_
          simp only [Override.apply, Vocabulary.draft, hlibrary, hmarkup]
  | _ => rfl

/-- Along a run, drafts and vocabularies stay together. -/
lemma draft_overrideAll (base : Vocabulary) (values : List Json) :
    (base.overrideAll values).draft = base.draft.overrideAll values := by
  induction values generalizing base with
  | nil => rfl
  | cons value rest ih =>
      rw [Vocabulary.overrideAll, List.foldl_cons, Draft.overrideAll, List.foldl_cons,
        draft_override]
      cases base.override value with
      | error fault => exact ih base
      | ok next => exact ih next

/-- Valid drafts accept the same overrides: what an override does not touch passes every check. -/
lemma Draft.exists_override_iff {draft other : Draft} (h : draft.IsValid) (hother : other.IsValid)
    (value : Json) :
    (∃ next, draft.override value = .ok next) ↔ ∃ next, other.override value = .ok next := by
  obtain ⟨first, rfl⟩ := exists_vocabulary h
  obtain ⟨second, rfl⟩ := exists_vocabulary hother
  have haccepted : ∀ base : Vocabulary, (∃ next, base.draft.override value = .ok next) ↔
      ∃ edits, Override.ofJson value = .ok edits := by
    intro base
    simp [draft_override, Vocabulary.override, except_map_eq_ok]
  rw [haccepted, haccepted]

/-! ### Overrides applied again -/

/-- An edit that is applied again changes nothing: what is taken out is taken out last, so no name
comes back. -/
lemma NameEdit.apply_apply (edit : NameEdit) (set : NameSet) :
    edit.apply (edit.apply set) = edit.apply set := by
  refine NameSet.ext_mem fun name => ?_
  cases hreplace : edit.replace with
  | some names => simp only [NameEdit.apply, hreplace]
  | none =>
      simp only [NameEdit.apply, hreplace, NameSet.mem_removeAll, NameSet.mem_insertAll]
      tauto

lemma editSet_editSet (edit : Option NameEdit) (set : NameSet) :
    editSet edit (editSet edit set) = editSet edit set := by
  cases edit with
  | none => rfl
  | some edit => exact edit.apply_apply set

lemma getD_getD {α : Type} (given : Option α) (old : α) :
    given.getD (given.getD old) = given.getD old := by
  cases given <;> rfl

/-- An override that is applied again changes nothing. -/
lemma Override.apply_apply (edits : Override) (base : Vocabulary) :
    edits.apply (edits.apply base) = edits.apply base := by
  simp only [Override.apply, editSet_editSet, getD_getD]

/-- **Runs of overrides settle**: from the default vocabulary on, to merge every override into the
draft and to check all of it reaches the drafts of the vocabularies of the run, accepts what they
accept, and leaves both namespaces identifiers. What is accepted at one point of a run is accepted
at every point of every run, and once accepted it can be applied again without effect. -/
theorem overrideAll_settled (payloads : List Json) :
    let reached := Vocabulary.default.overrideAll payloads
    reached.draft = Vocabulary.default.draft.overrideAll payloads ∧
      reached.draft.IsValid ∧
      (∀ payload, reached.draft.override payload = Vocabulary.draft <$> reached.override payload) ∧
      (∀ others payload,
        (∃ result, reached.override payload = .ok result) ↔
          ∃ result, (Vocabulary.default.overrideAll others).override payload = .ok result) ∧
      ∀ payload result, reached.override payload = .ok result →
        result.override payload = .ok result := by
  intro reached
  have hvalid : ∀ values, (Vocabulary.default.overrideAll values).draft.IsValid := by
    intro values
    rw [draft_overrideAll]
    exact Draft.isValid_overrideAll ⟨Vocabulary.default.library.property,
      Vocabulary.default.markup.property⟩ values
  refine ⟨draft_overrideAll _ payloads, hvalid payloads, draft_override reached,
    fun others payload => ?_, fun payload result h => ?_⟩
  · have hsame := Draft.exists_override_iff (hvalid payloads) (hvalid others) payload
    simpa [draft_override, except_map_eq_ok] using hsame
  · obtain ⟨edits, hedits, rfl⟩ := except_map_eq_ok.mp h
    rw [Vocabulary.override, hedits]
    exact congrArg Except.ok (edits.apply_apply reached)

/-- An override whose lists overlap: it takes out a name that it adds, and one that was there. -/
def overlappingPayload : Json :=
  .obj
    [("hooks", .obj
        [("extend", .strings ["useForm", "useId"]), ("remove", .strings ["useId", "use"])]),
      ("namespace", .str "Preact")]

/-- An override that is refused for its namespace. -/
def numberedPayload : Json :=
  .obj [("hooks", .strings []), ("namespace", .str "1st")]

/-- The override is accepted after a refused one, and nothing changes when it is repeated. -/
theorem overrideAll_settled_overlapping :
    Vocabulary.default.override numberedPayload = .error (.notIdentifier "namespace" "1st") ∧
      ∃ result,
        (Vocabulary.default.overrideAll [numberedPayload]).override overlappingPayload =
            .ok result ∧
          result.override overlappingPayload = .ok result ∧
          "useForm" ∈ result.hooks ∧ "useId" ∉ result.hooks ∧ "useState" ∈ result.hooks ∧
          result.library.val = "Preact" := by
  have hrefused : Vocabulary.default.override numberedPayload =
      .error (.notIdentifier "namespace" "1st") := by decide +kernel
  have hchecked : ((Vocabulary.default.overrideAll [numberedPayload]).override
      overlappingPayload).toOption.any (fun result => decide ("useForm" ∈ result.hooks ∧
        "useId" ∉ result.hooks ∧ "useState" ∈ result.hooks ∧ result.library.val = "Preact")) =
      true := by decide +kernel
  obtain ⟨result, hresult, hnames⟩ := exists_of_any hchecked
  have hagain := (overrideAll_settled [numberedPayload]).2.2.2.2 overlappingPayload result hresult
  exact ⟨hrefused, result, hresult, hagain, of_decide_eq_true hnames⟩

end SourceLayers
