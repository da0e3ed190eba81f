/-
Edits of a vocabulary, read from a JSON value:

* `NameEdit`: what becomes of one set of names: it may be replaced, then names are added, then names
  are taken out;
* `Override`: an edit for every set and a new value for every single name, each of them optional;
* `Override.ofJson`: reads an override, or says what is wrong with it (`OverrideFault`);
* `Vocabulary.override`: applies it.

The shape of the value is checked before any name: first its fields, then the five sets in order,
then the three single names, and last that the two namespaces are identifiers. Whether a value is
accepted does not depend on the vocabulary it is applied to.
-/
import SourceLayers.Json.Basic
import SourceLayers.Text.Quoted
import SourceLayers.Vocabulary.Basic

namespace SourceLayers

/-- What is wrong with an override. -/
inductive OverrideFault where
  | notObject
  | unknownFields (names : List String)
  | notListOrObject (field : String)
  | unknownKeys (field : String) (names : List String)
  | notStrings (field : String)
  | notString (field : String)
  | notIdentifier (field : String) (value : String)
  deriving DecidableEq, Repr

/-- The wording of a fault. -/
def OverrideFault.message : OverrideFault → String
  | .notObject => "vocabulary override must be a JSON object"
  | .unknownFields names => "unknown vocabulary fields: " ++ quoteList names
  | .notListOrObject field => field ++ " override must be a list or an object"
  | .unknownKeys field names => field ++ " override has unknown keys: " ++ quoteList names
  | .notStrings field => field ++ " entries must be a list of strings"
  | .notString field => field ++ " must be a string"
  | .notIdentifier field value => field ++ " must be an identifier, got " ++ quote value

/-! ### Edits of a set -/

/-- An edit of a set of names. -/
structure NameEdit where
  replace : Option (List String) := none
  extend : List String := []
  remove : List String := []
  deriving DecidableEq, Repr

/-- The set after an edit. -/
def NameEdit.apply (edit : NameEdit) (set : NameSet) : NameSet :=
  let base := match edit.replace with
    | some names => NameSet.ofList names
    | none => set
  (base.insertAll edit.extend).removeAll edit.remove

/-- The fields of an edit. -/
def editKeys : List String :=
  ["extend", "replace", "remove"]

/-- A list of texts in a field. -/
def readNames (field : String) (value : Json) : Except OverrideFault (List String) :=
  match value with
  | .arr items =>
    match items.mapM Json.str? with
    | some names => .ok names
    | none => .error (.notStrings field)
  | _ => .error (.notStrings field)

/-- The names of fields that are not among the known ones, in order and each once. -/
def unknownNames (fields : List (String × Json)) (known : List String) : List String :=
  (NameSet.ofList ((fields.map Prod.fst).filter fun name => !known.contains name)).toList

/-- The list of texts under a key, if the key is there. -/
def readKey (field : String) (fields : List (String × Json)) (key : String) :
    Except OverrideFault (Option (List String)) :=
  match fields.lookup key with
  | some value => some <$> readNames field value
  | none => .ok none

/-- An edit: a list of texts replaces the set, and an object says what to replace, extend and
remove. -/
def NameEdit.ofJson (field : String) (value : Json) : Except OverrideFault NameEdit :=
  match value with
  | .arr items => do
    let names ← readNames field (.arr items)
    return { replace := some names }
  | .obj fields =>
    match unknownNames fields editKeys with
    | [] => do
      let replace ← readKey field fields "replace"
      let extend ← readKey field fields "extend"
      let remove ← readKey field fields "remove"
      return { replace, extend := extend.getD [], remove := remove.getD [] }
    | names => .error (.unknownKeys field names)
  | _ => .error (.notListOrObject field)

/-! ### Overrides -/

/-- An override of a vocabulary. What is not given stays. -/
structure Override where
  hooks : Option NameEdit
  types : Option NameEdit
  utilities : Option NameEdit
  jsxAttributes : Option NameEdit
  directives : Option NameEdit
  library : Option Identifier
  markup : Option Identifier
  elementFactory : Option String

/-- The fields of an override. -/
def overrideFields : List String :=
  ["hooks", "types", "utilities", "jsx_attributes", "directives", "namespace",
    "markup_namespace", "element_factory"]

/-- The edit in a field, if the field is there. -/
def readEdit (fields : List (String × Json)) (field : String) :
    Except OverrideFault (Option NameEdit) :=
  match fields.lookup field with
  | some value => some <$> NameEdit.ofJson field value
  | none => .ok none

/-- The text in a field, if the field is there. -/
def readName (fields : List (String × Json)) (field : String) :
    Except OverrideFault (Option String) :=
  match fields.lookup field with
  | some (.str text) => .ok (some text)
  | some _ => .error (.notString field)
  | none => .ok none

/-- A text that is given must be an identifier. -/
def readIdentifier (field : String) (text : Option String) :
    Except OverrideFault (Option Identifier) :=
  match text with
  | none => .ok none
  | some text =>
    match Identifier.ofString? text with
    | some identifier => .ok (some identifier)
    | none => .error (.notIdentifier field text)

/-- Reads an override. -/
def Override.ofJson (value : Json) : Except OverrideFault Override :=
  match value with
  | .obj fields =>
    match unknownNames fields overrideFields with
    | [] => do
      let hooks ← readEdit fields "hooks"
      let types ← readEdit fields "types"
      let utilities ← readEdit fields "utilities"
      let jsxAttributes ← readEdit fields "jsx_attributes"
      let directives ← readEdit fields "directives"
      let library ← readName fields "namespace"
      let markup ← readName fields "markup_namespace"
      let elementFactory ← readName fields "element_factory"
      let library ← readIdentifier "namespace" library
      let markup ← readIdentifier "markup_namespace" markup
      return { hooks, types, utilities, jsxAttributes, directives, library, markup, elementFactory }
    | names => .error (.unknownFields names)
  | _ => .error .notObject

/-- The set after an edit that may be absent. -/
def editSet (edit : Option NameEdit) (set : NameSet) : NameSet :=
  match edit with
  | some edit => edit.apply set
  | none => set

/-- The vocabulary after an override. -/
def Override.apply (edits : Override) (base : Vocabulary) : Vocabulary where
  hooks := editSet edits.hooks base.hooks
  types := editSet edits.types base.types
  utilities := editSet edits.utilities base.utilities
  jsxAttributes := editSet edits.jsxAttributes base.jsxAttributes
  directives := editSet edits.directives base.directives
  library := edits.library.getD base.library
  markup := edits.markup.getD base.markup
  elementFactory := edits.elementFactory.getD base.elementFactory

/-- The vocabulary after the override that a JSON value describes. -/
def Vocabulary.override (base : Vocabulary) (value : Json) : Except OverrideFault Vocabulary :=
  (Override.apply · base) <$> Override.ofJson value

/-- The vocabulary after a list of overrides, one after the other; a refused one changes nothing. -/
def Vocabulary.overrideAll (base : Vocabulary) (values : List Json) : Vocabulary :=
  values.foldl
    (fun current value =>
      match current.override value with
      | .ok next => next
      | .error _ => current)
    base

/-- The names of a vocabulary as a JSON value. -/
def Vocabulary.toJson (vocabulary : Vocabulary) : Json :=
  .obj
    [("hooks", .strings vocabulary.hooks.toList),
      ("types", .strings vocabulary.types.toList),
      ("utilities", .strings vocabulary.utilities.toList),
      ("jsx_attributes", .strings vocabulary.jsxAttributes.toList),
      ("directives", .strings vocabulary.directives.toList),
      ("namespace", .str vocabulary.library.val),
      ("markup_namespace", .str vocabulary.markup.val),
      ("element_factory", .str vocabulary.elementFactory)]

end SourceLayers
