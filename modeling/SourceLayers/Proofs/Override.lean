/-
What overrides of a vocabulary are accepted, and what becomes of it:

* `Json.IsTexts`, `Json.IsEdit`: lists of texts, and what may stand in the field of a set;
* `Json.listUnder?`: the lists of an edit. A bare list is the one that replaces the set;
* `Json.Edits`: what an edit makes of a set;
* `setFields`, `nameFields`: the fields of an override with what they stand for in a vocabulary, and
  `givenText`, the text that a single name ends up with;
* `readNames_eq_ok_iff`, `NameEdit.ofJson_eq_ok_iff`, `readEdit_eq_ok_iff`, `readName_eq_ok_iff`,
  `exists_readIdentifier_iff`: when each step in reading an override succeeds, and with what;
* `Vocabulary.Refuses`: overrides that are refused, by what is wrong with them.

Main statement: `override_exact`.
-/
import Mathlib.Tactic
import SourceLayers.Proofs.Outcome
import SourceLayers.Vocabulary.Override

namespace SourceLayers

variable {field key : String} {fields : List (String × Json)} {value : Json} {names : List String}

/-! ### Lists of texts -/

namespace Json

/-- A list of texts. -/
def IsTexts (value : Json) : Prop :=
  ∃ names, value = .strings names

/-- The texts in a list. -/
def texts : Json → List String
  | .arr items => items.filterMap Json.str?
  | _ => []

@[simp] lemma texts_strings (names : List String) : (Json.strings names).texts = names := by
  induction names with
  | nil => rfl
  | cons name rest ih => simpa [strings, texts, Json.str?] using ih

lemma mapM_str?_eq_some_iff {items : List Json} :
    items.mapM Json.str? = some names ↔ items = names.map .str := by
  induction items generalizing names with
  | nil => cases names <;> simp
  | cons item rest ih =>
      simp only [List.mapM_cons, Option.bind_eq_bind, Option.bind_eq_some_iff, ih, Option.pure_def,
        Option.some_inj]
      cases names with
      | nil => simp
      | cons name more => cases item <;> simp [Json.str?, and_comm, eq_comm]

end Json

/-- A list of texts is read as those texts, and nothing else is read. -/
lemma readNames_eq_ok_iff :
    readNames field value = .ok names ↔ value.IsTexts ∧ names = value.texts := by
  have hstrings : readNames field value = .ok names ↔ value = .strings names := by
    cases value with
    | arr items =>
        rw [readNames, Json.strings, Json.arr.injEq, ← Json.mapM_str?_eq_some_iff]
        cases items.mapM Json.str? <;> simp
    | _ => simp [readNames, Json.strings]
  rw [hstrings]
  constructor
  · rintro rfl
    exact ⟨⟨names, rfl⟩, (Json.texts_strings names).symm⟩
  · rintro ⟨⟨texts, rfl⟩, rfl⟩
    rw [Json.texts_strings]

/-- What may be absent is accepted if it is absent, or if what is there is. -/
lemma optional_eq_ok_iff {α : Type} {read : Json → Except OverrideFault α} {accepts : Json → Prop}
    {meaning : Json → α}
    (hread : ∀ value result, read value = .ok result ↔ accepts value ∧ result = meaning value)
    (given : Option Json) {found : Option α} :
    (match given with
      | some value => some <$> read value
      | none => .ok none) = .ok found ↔
      (∀ value, given = some value → accepts value) ∧ found = given.map meaning := by
  cases given with
  | none => simp [eq_comm]
  | some value =>
      simp only [except_map_eq_ok, hread, Option.some.injEq, forall_eq', Option.map_some]
      constructor
      · rintro ⟨result, ⟨haccepts, rfl⟩, rfl⟩
        exact ⟨haccepts, rfl⟩
      · rintro ⟨haccepts, rfl⟩
        exact ⟨_, ⟨haccepts, rfl⟩, rfl⟩

lemma readKey_eq_ok_iff {found : Option (List String)} :
    readKey field fields key = .ok found ↔
      (∀ value, fields.lookup key = some value → value.IsTexts) ∧
        found = (fields.lookup key).map Json.texts :=
  optional_eq_ok_iff (fun _ _ => readNames_eq_ok_iff) (fields.lookup key)

/-! ### Edits of a set -/

/-- What may stand in the field of a set: a list of texts, or an object with no other fields than
those of an edit, each of them a list of texts. -/
def Json.IsEdit : Json → Prop
  | .arr items => (Json.arr items).IsTexts
  | .obj fields =>
    (∀ field ∈ fields, field.1 ∈ editKeys) ∧
      ∀ key ∈ editKeys, ∀ value, fields.lookup key = some value → value.IsTexts
  | _ => False

/-- The list under a key of an edit. A bare list replaces the set. -/
def Json.listUnder? (key : String) : Json → Option (List String)
  | .arr items => if key = "replace" then some (Json.arr items).texts else none
  | .obj fields => (fields.lookup key).map Json.texts
  | _ => none

/-- The edit that a value describes. -/
def Json.edit (value : Json) : NameEdit where
  replace := value.listUnder? "replace"
  extend := (value.listUnder? "extend").getD []
  remove := (value.listUnder? "remove").getD []

/-- There are no unknown names if all are known. -/
lemma unknownNames_eq_nil_iff {known : List String} :
    unknownNames fields known = [] ↔ ∀ field ∈ fields, field.1 ∈ known := by
  have hmem : ∀ name, name ∈ unknownNames fields known ↔
      name ∈ fields.map Prod.fst ∧ name ∉ known := by
    intro name
    rw [unknownNames, ← NameSet.mem_def, NameSet.mem_ofList]
    simp
  rw [List.eq_nil_iff_forall_not_mem]
  simp only [hmem, not_and, not_not, List.forall_mem_map]

lemma NameEdit.ofJson_eq_ok_iff {edit : NameEdit} :
    NameEdit.ofJson field value = .ok edit ↔ value.IsEdit ∧ edit = value.edit := by
  cases value with
  | arr items =>
      rw [NameEdit.ofJson, Json.IsEdit]
      constructor
      · intro h
        obtain ⟨names, hnames, h⟩ := except_bind_eq_ok.mp h
        obtain ⟨htexts, rfl⟩ := readNames_eq_ok_iff.mp hnames
        cases h
        exact ⟨htexts, rfl⟩
      · rintro ⟨htexts, rfl⟩
        rw [readNames_eq_ok_iff.mpr ⟨htexts, rfl⟩]
        rfl
  | obj fields =>
      rw [NameEdit.ofJson, Json.IsEdit, ← unknownNames_eq_nil_iff]
      cases unknownNames fields editKeys with
      | cons name rest => simp
      | nil =>
          simp only [true_and]
          constructor
          · intro h
            obtain ⟨replace, hreplace, h⟩ := except_bind_eq_ok.mp h
            obtain ⟨extend, hextend, h⟩ := except_bind_eq_ok.mp h
            obtain ⟨remove, hremove, h⟩ := except_bind_eq_ok.mp h
            rw [readKey_eq_ok_iff] at hreplace hextend hremove
            cases h
            refine ⟨fun key hkey => ?_, by rw [hreplace.2, hextend.2, hremove.2]; rfl⟩
            simp only [editKeys, List.mem_cons, List.not_mem_nil, or_false] at hkey
            rcases hkey with rfl | rfl | rfl
            exacts [hextend.1, hreplace.1, hremove.1]
          · rintro ⟨htexts, rfl⟩
            have hkey : ∀ key ∈ editKeys,
                readKey field fields key = .ok ((fields.lookup key).map Json.texts) :=
              fun key hkey => readKey_eq_ok_iff.mpr ⟨htexts key hkey, rfl⟩
            rw [hkey "replace" (by simp [editKeys]), hkey "extend" (by simp [editKeys]),
              hkey "remove" (by simp [editKeys])]
            rfl
  | _ => simp [NameEdit.ofJson, Json.IsEdit]

lemma readEdit_eq_ok_iff {edit : Option NameEdit} :
    readEdit fields field = .ok edit ↔
      (∀ value, fields.lookup field = some value → value.IsEdit) ∧
        edit = (fields.lookup field).map Json.edit :=
  optional_eq_ok_iff (fun _ _ => NameEdit.ofJson_eq_ok_iff) (fields.lookup field)

/-- Whether a set of names comes from an old one by an edit: what replaces it, or the old one, is
extended, and then names are taken out. -/
def Json.Edits (value : Json) (old new : NameSet) : Prop :=
  ∀ name, name ∈ new ↔
    (name ∈ ((value.listUnder? "replace").map NameSet.ofList).getD old ∨
        name ∈ (value.listUnder? "extend").getD []) ∧
      name ∉ (value.listUnder? "remove").getD []

lemma edits_apply (value : Json) (set : NameSet) : value.Edits set (value.edit.apply set) := by
  intro name
  rw [NameEdit.apply, NameSet.mem_removeAll, NameSet.mem_insertAll, Json.edit]
  cases value.listUnder? "replace" <;> rfl

/-- What becomes of a set by what its field holds. -/
lemma editSet_of_readEdit {edit : Option NameEdit} (h : readEdit fields field = .ok edit)
    (set : NameSet) :
    (fields.lookup field = none → editSet edit set = set) ∧
      ∀ value, fields.lookup field = some value → value.Edits set (editSet edit set) := by
  obtain ⟨-, rfl⟩ := readEdit_eq_ok_iff.mp h
  refine ⟨fun hnone => ?_, fun value hvalue => ?_⟩
  · rw [hnone]
    rfl
  · rw [hvalue]
    exact edits_apply value set

/-! ### Single names -/

/-- The text in a field, or an old one if there is none. -/
def givenText (fields : List (String × Json)) (field : String) (old : String) : String :=
  match fields.lookup field with
  | some (.str text) => text
  | _ => old

lemma readName_eq_ok_iff {text : Option String} :
    readName fields field = .ok text ↔
      (∀ value, fields.lookup field = some value → ∃ text, value = .str text) ∧
        text = (fields.lookup field).bind Json.str? := by
  rw [readName]
  cases fields.lookup field with
  | none => simp [eq_comm]
  | some value => cases value <;> simp [Json.str?, eq_comm]

/-- The name that a field gives is its text, or the old one. -/
lemma getD_of_readName {text : Option String} (h : readName fields field = .ok text)
    (old : String) : text.getD old = givenText fields field old := by
  obtain ⟨htext, rfl⟩ := readName_eq_ok_iff.mp h
  rw [givenText]
  cases hlookup : fields.lookup field with
  | none => rfl
  | some value =>
      obtain ⟨text, rfl⟩ := htext value hlookup
      rfl

lemma readIdentifier_eq_ok_iff {text : Option String} {identifier : Option Identifier} :
    readIdentifier field text = .ok identifier ↔ identifier.map Subtype.val = text := by
  cases text with
  | none => cases identifier <;> simp [readIdentifier]
  | some text =>
      rw [readIdentifier]
      by_cases htext : isIdentifier text = true
      · cases identifier <;> simp [Identifier.ofString?, htext, Subtype.ext_iff, eq_comm]
      · have hnone : ∀ identifier : Identifier, identifier.val ≠ text := by
          rintro identifier rfl
          exact htext identifier.property
        cases identifier <;> simp [Identifier.ofString?, htext, hnone]

/-- An identifier is read where the field holds a text, if any, and the name that it gives is an
identifier. -/
lemma exists_readIdentifier_iff (old : Identifier) :
    (∃ text identifier, readName fields field = .ok text ∧
        readIdentifier field text = .ok identifier) ↔
      (∀ value, fields.lookup field = some value → ∃ text, value = .str text) ∧
        isIdentifier (givenText fields field old.val) = true := by
  constructor
  · rintro ⟨text, identifier, htext, hidentifier⟩
    refine ⟨(readName_eq_ok_iff.mp htext).1, ?_⟩
    rw [← getD_of_readName htext, ← readIdentifier_eq_ok_iff.mp hidentifier]
    cases identifier with
    | none => exact old.property
    | some identifier => exact identifier.property
  · rintro ⟨htext, hidentifier⟩
    have hread := readName_eq_ok_iff.mpr ⟨htext, rfl⟩
    rw [← getD_of_readName hread] at hidentifier
    refine ⟨_, ((fields.lookup field).bind Json.str?).attach.map fun text => ⟨text.1, ?_⟩, hread,
      readIdentifier_eq_ok_iff.mpr ?_⟩
    · obtain ⟨text, hsome⟩ := text
      rwa [hsome] at hidentifier
    · simp [Option.map_map, Function.comp_def]

/-! ### Overrides -/

/-- The fields of sets, with the sets that they stand for. -/
def setFields : List (String × (Vocabulary → NameSet)) :=
  [("hooks", Vocabulary.hooks), ("types", Vocabulary.types), ("utilities", Vocabulary.utilities),
    ("jsx_attributes", Vocabulary.jsxAttributes), ("directives", Vocabulary.directives)]

/-- The fields of single names that must be identifiers. -/
def identifierFields : List (String × (Vocabulary → Identifier)) :=
  [("namespace", Vocabulary.library), ("markup_namespace", Vocabulary.markup)]

/-- An override that a vocabulary refuses, by what is wrong with it. -/
inductive Vocabulary.Refuses (base : Vocabulary) : Json → Prop where
  | notObject {payload : Json} (h : ∀ fields, payload ≠ .obj fields) :
    Vocabulary.Refuses base payload
  | unknownField {fields : List (String × Json)} {field : String × Json} (hfield : field ∈ fields)
    (h : field.1 ∉ overrideFields) : Vocabulary.Refuses base (.obj fields)
  | notEdit {fields : List (String × Json)} {field : String} {value : Json}
    (hfield : field ∈ setFields.map Prod.fst) (hvalue : fields.lookup field = some value)
    (h : ¬ value.IsEdit) : Vocabulary.Refuses base (.obj fields)
  | notText {fields : List (String × Json)} {field : String} {value : Json}
    (hfield : field ∈ identifierFields.map Prod.fst ++ ["element_factory"])
    (hvalue : fields.lookup field = some value) (h : ∀ text, value ≠ .str text) :
    Vocabulary.Refuses base (.obj fields)
  | notIdentifier {fields : List (String × Json)} {field : String × (Vocabulary → Identifier)}
    (hfield : field ∈ identifierFields)
    (h : isIdentifier (givenText fields field.1 (field.2 base).val) = false) :
    Vocabulary.Refuses base (.obj fields)

/-- Reading an override, taken apart. -/
lemma Override.ofJson_eq_ok_iff {edits : Override} :
    Override.ofJson (.obj fields) = .ok edits ↔
      (∀ field ∈ fields, field.1 ∈ overrideFields) ∧
      readEdit fields "hooks" = .ok edits.hooks ∧
      readEdit fields "types" = .ok edits.types ∧
      readEdit fields "utilities" = .ok edits.utilities ∧
      readEdit fields "jsx_attributes" = .ok edits.jsxAttributes ∧
      readEdit fields "directives" = .ok edits.directives ∧
      (∃ text, readName fields "namespace" = .ok text ∧
        readIdentifier "namespace" text = .ok edits.library) ∧
      (∃ text, readName fields "markup_namespace" = .ok text ∧
        readIdentifier "markup_namespace" text = .ok edits.markup) ∧
      readName fields "element_factory" = .ok edits.elementFactory := by
  rw [Override.ofJson, ← unknownNames_eq_nil_iff]
  cases unknownNames fields overrideFields with
  | cons name rest => simp
  | nil =>
      constructor
      · intro h
        obtain ⟨hooks, hhooks, h⟩ := except_bind_eq_ok.mp h
        obtain ⟨types, htypes, h⟩ := except_bind_eq_ok.mp h
        obtain ⟨utilities, hutilities, h⟩ := except_bind_eq_ok.mp h
        obtain ⟨jsxAttributes, hattributes, h⟩ := except_bind_eq_ok.mp h
        obtain ⟨directives, hdirectives, h⟩ := except_bind_eq_ok.mp h
        obtain ⟨libraryText, hlibraryText, h⟩ := except_bind_eq_ok.mp h
        obtain ⟨markupText, hmarkupText, h⟩ := except_bind_eq_ok.mp h
        obtain ⟨factory, hfactory, h⟩ := except_bind_eq_ok.mp h
        obtain ⟨library, hlibrary, h⟩ := except_bind_eq_ok.mp h
        obtain ⟨markup, hmarkup, h⟩ := except_bind_eq_ok.mp h
        cases h
        exact ⟨rfl, hhooks, htypes, hutilities, hattributes, hdirectives,
          ⟨libraryText, hlibraryText, hlibrary⟩, ⟨markupText, hmarkupText, hmarkup⟩, hfactory⟩
      · rintro ⟨-, hhooks, htypes, hutilities, hattributes, hdirectives,
          ⟨libraryText, hlibraryText, hlibrary⟩, ⟨markupText, hmarkupText, hmarkup⟩, hfactory⟩
        simp only [hhooks, htypes, hutilities, hattributes, hdirectives, hlibraryText, hmarkupText,
          hfactory, bind, Except.bind, hlibrary, hmarkup]
        rfl

/-- An object is read as an override if its fields are known and each of them is what it should
be. -/
lemma Override.exists_ofJson_iff (base : Vocabulary) :
    (∃ edits, Override.ofJson (.obj fields) = .ok edits) ↔
      (∀ field ∈ fields, field.1 ∈ overrideFields) ∧
      (∀ field ∈ setFields.map Prod.fst, ∀ value, fields.lookup field = some value →
        value.IsEdit) ∧
      (∀ field ∈ identifierFields,
        (∀ value, fields.lookup field.1 = some value → ∃ text, value = .str text) ∧
          isIdentifier (givenText fields field.1 (field.2 base).val) = true) ∧
      ∀ value, fields.lookup "element_factory" = some value → ∃ text, value = .str text := by
  constructor
  · rintro ⟨edits, hedits⟩
    obtain ⟨hknown, hhooks, htypes, hutilities, hattributes, hdirectives, ⟨_, hlibrary⟩,
      ⟨_, hmarkup⟩, hfactory⟩ := Override.ofJson_eq_ok_iff.mp hedits
    rw [readEdit_eq_ok_iff] at hhooks htypes hutilities hattributes hdirectives
    refine ⟨hknown, ?_, ?_, (readName_eq_ok_iff.mp hfactory).1⟩
    · simpa [setFields] using ⟨hhooks.1, htypes.1, hutilities.1, hattributes.1, hdirectives.1⟩
    · simpa [identifierFields] using ⟨(exists_readIdentifier_iff base.library).mp ⟨_, _, hlibrary⟩,
        (exists_readIdentifier_iff base.markup).mp ⟨_, _, hmarkup⟩⟩
  · rintro ⟨hknown, hsets, hidentifiers, hfactory⟩
    have hedit : ∀ field ∈ setFields.map Prod.fst,
        readEdit fields field = .ok ((fields.lookup field).map Json.edit) :=
      fun field hfield => readEdit_eq_ok_iff.mpr ⟨hsets field hfield, rfl⟩
    obtain ⟨_, library, hlibrary⟩ := (exists_readIdentifier_iff base.library).mpr
      (hidentifiers ("namespace", Vocabulary.library) (by simp [identifierFields]))
    obtain ⟨_, markup, hmarkup⟩ := (exists_readIdentifier_iff base.markup).mpr
      (hidentifiers ("markup_namespace", Vocabulary.markup) (by simp [identifierFields]))
    exact ⟨⟨_, _, _, _, _, library, markup, _⟩, Override.ofJson_eq_ok_iff.mpr ⟨hknown,
      hedit "hooks" (by simp [setFields]), hedit "types" (by simp [setFields]),
      hedit "utilities" (by simp [setFields]), hedit "jsx_attributes" (by simp [setFields]),
      hedit "directives" (by simp [setFields]), ⟨_, hlibrary⟩, ⟨_, hmarkup⟩,
      readName_eq_ok_iff.mpr ⟨hfactory, rfl⟩⟩⟩

/-- An override is read if nothing is wrong with it. -/
lemma exists_ofJson_iff_not_refuses (base : Vocabulary) (payload : Json) :
    (∃ edits, Override.ofJson payload = .ok edits) ↔ ¬ base.Refuses payload := by
  by_cases hobject : ∃ fields, payload = .obj fields
  · obtain ⟨fields, rfl⟩ := hobject
    rw [Override.exists_ofJson_iff base]
    constructor
    · rintro ⟨hknown, hsets, hidentifiers, hfactory⟩ hrefused
      cases hrefused with
      | notObject h => exact h fields rfl
      | unknownField hfield h => exact h (hknown _ hfield)
      | notEdit hfield hvalue h => exact h (hsets _ hfield _ hvalue)
      | notText hfield hvalue h =>
          rcases List.mem_append.mp hfield with hfield | hfield
          · obtain ⟨field, hmem, rfl⟩ := List.mem_map.mp hfield
            obtain ⟨text, rfl⟩ := (hidentifiers field hmem).1 _ hvalue
            exact h text rfl
          · obtain rfl := List.mem_singleton.mp hfield
            obtain ⟨text, rfl⟩ := hfactory _ hvalue
            exact h text rfl
      | notIdentifier hfield h => simp [(hidentifiers _ hfield).2] at h
    · intro hrefused
      have htext : ∀ field ∈ identifierFields.map Prod.fst ++ ["element_factory"],
          ∀ value, fields.lookup field = some value → ∃ text, value = .str text := by
        intro field hfield value hvalue
        by_contra hnone
        exact hrefused (.notText hfield hvalue (not_exists.mp hnone))
      refine ⟨fun field hfield => ?_, fun field hfield value hvalue => ?_,
        fun field hfield => ⟨htext field.1 ?_, ?_⟩, htext _ (by simp)⟩
      · by_contra hunknown
        exact hrefused (.unknownField hfield hunknown)
      · by_contra hedit
        exact hrefused (.notEdit hfield hvalue hedit)
      · exact List.mem_append_left _ (List.mem_map_of_mem hfield)
      · by_contra hidentifier
        exact hrefused (.notIdentifier hfield (Bool.not_eq_true _ ▸ hidentifier))
  · have hnone := not_exists.mp hobject
    refine iff_of_false ?_ (not_not.mpr (.notObject hnone))
    rintro ⟨edits, hedits⟩
    cases payload with
    | obj fields => exact hnone fields rfl
    | _ => cases hedits

/-- What becomes of a namespace by what its field holds. -/
lemma getD_of_readIdentifier {text : Option String} {identifier : Option Identifier}
    (htext : readName fields field = .ok text)
    (hidentifier : readIdentifier field text = .ok identifier) (old : Identifier) :
    (identifier.getD old).val = givenText fields field old.val := by
  rw [← getD_of_readName htext, ← readIdentifier_eq_ok_iff.mp hidentifier]
  cases identifier <;> rfl

/-- **Overrides are accepted and applied exactly**: a value is refused if something is wrong with
it. From any other one, each set that is given is what replaced it, or the old one, extended and
then with names taken out; each name that is given is the text; and the rest stays. -/
theorem override_exact (base : Vocabulary) (payload : Json) :
    ((∃ fault, base.override payload = .error fault) ↔ base.Refuses payload) ∧
    (¬ base.Refuses payload →
      ∃ fields result, payload = .obj fields ∧ base.override payload = .ok result ∧
        (∀ field ∈ setFields,
          (fields.lookup field.1 = none → field.2 result = field.2 base) ∧
          ∀ value, fields.lookup field.1 = some value →
            value.Edits (field.2 base) (field.2 result)) ∧
        (∀ field ∈ identifierFields,
          (field.2 result).val = givenText fields field.1 (field.2 base).val) ∧
        result.elementFactory = givenText fields "element_factory" base.elementFactory) := by
  constructor
  · rw [← not_not (a := base.Refuses payload), ← exists_ofJson_iff_not_refuses, Vocabulary.override]
    simp only [except_map_eq_error]
    cases Override.ofJson payload <;> simp
  · intro hrefused
    obtain ⟨edits, hedits⟩ := (exists_ofJson_iff_not_refuses base payload).mpr hrefused
    have hobject : ∃ fields, payload = .obj fields := by
      by_contra hnone
      exact hrefused (.notObject (not_exists.mp hnone))
    obtain ⟨fields, rfl⟩ := hobject
    obtain ⟨-, hhooks, htypes, hutilities, hattributes, hdirectives, ⟨_, hlibrary, hlibrary'⟩,
      ⟨_, hmarkup, hmarkup'⟩, hfactory⟩ := Override.ofJson_eq_ok_iff.mp hedits
    refine ⟨fields, edits.apply base, rfl, by rw [Vocabulary.override, hedits]; rfl, ?_, ?_,
      getD_of_readName hfactory _⟩
    · simp only [setFields, List.forall_mem_cons, List.not_mem_nil, false_implies, implies_true,
        and_true]
      exact ⟨editSet_of_readEdit hhooks _, editSet_of_readEdit htypes _,
        editSet_of_readEdit hutilities _, editSet_of_readEdit hattributes _,
        editSet_of_readEdit hdirectives _⟩
    · simp only [identifierFields, List.forall_mem_cons, List.not_mem_nil, false_implies,
        implies_true, and_true]
      exact ⟨getD_of_readIdentifier hlibrary hlibrary' _, getD_of_readIdentifier hmarkup hmarkup' _⟩

/-- An override that adds a hook and takes one out. -/
def hookPayload : Json :=
  .obj [("hooks", .obj [("extend", .strings ["useFormState"]), ("remove", .strings ["use"])])]

/-- The hook that is added is there afterwards, the one that is taken out is not, and the types are
as they were. -/
theorem override_exact_hooks :
    ¬ Vocabulary.default.Refuses hookPayload ∧
      ∃ result, Vocabulary.default.override hookPayload = .ok result ∧
        "useFormState" ∈ result.hooks ∧ "use" ∉ result.hooks ∧
        result.types = Vocabulary.default.types := by
  obtain ⟨hfault, happly⟩ := override_exact .default hookPayload
  have haccepted : ¬ Vocabulary.default.Refuses hookPayload := by
    rw [← hfault]
    rintro ⟨fault, h⟩
    have hok : (Vocabulary.default.override hookPayload).isOk = true := by decide +kernel
    rw [h] at hok
    cases hok
  obtain ⟨fields, result, hfields, hresult, hsets, -⟩ := happly haccepted
  cases hfields
  have hhooks := (hsets ("hooks", Vocabulary.hooks) (by simp [setFields])).2 _ rfl
  have htypes := (hsets ("types", Vocabulary.types) (by simp [setFields])).1 rfl
  refine ⟨haccepted, result, hresult, (hhooks _).mpr ⟨Or.inr ?_, ?_⟩,
    fun hmem => ((hhooks _).mp hmem).2 ?_, htypes⟩
  all_goals decide

end SourceLayers
