/-
The layer of a node that no rule takes:

* `baseKinds`, `typeKinds`, `markupKinds`, `referenceKinds`: the kinds of the base language, of its
  types, of markup, and of references to types;
* `Reading.referenceLayer`: a reference to a type belongs to the library if its name does;
* `Reading.defaultLayer?`: the layer of a node by its kind.
-/
import SourceLayers.Rule.Basic

namespace SourceLayers

/-- Kinds of the base language: declarations, statements, expressions, patterns, names and
literals. -/
def baseKinds : List String :=
  ["lexical_declaration", "variable_declaration", "variable_declarator", "function_declaration",
    "generator_function_declaration", "function_expression", "function", "generator_function",
    "arrow_function", "class_declaration", "class", "class_body",
    "expression_statement", "statement_block", "if_statement", "else_clause", "for_statement",
    "for_in_statement", "while_statement", "do_statement", "switch_statement", "switch_body",
    "switch_case", "switch_default", "try_statement", "catch_clause", "finally_clause",
    "throw_statement", "return_statement", "break_statement", "continue_statement",
    "labeled_statement", "empty_statement", "debugger_statement", "import_statement",
    "export_statement",
    "member_expression", "subscript_expression", "object", "array", "pair", "ternary_expression",
    "binary_expression", "unary_expression", "update_expression", "assignment_expression",
    "augmented_assignment_expression", "sequence_expression", "template_string",
    "template_substitution", "await_expression", "yield_expression", "spread_element",
    "parenthesized_expression",
    "required_parameter", "optional_parameter", "object_pattern", "array_pattern", "pair_pattern",
    "rest_pattern", "assignment_pattern",
    "identifier", "property_identifier", "shorthand_property_identifier",
    "shorthand_property_identifier_pattern", "private_property_identifier",
    "statement_identifier", "string", "number", "regex", "true", "false", "null", "undefined",
    "this", "super"]

/-- Kinds of type declarations and of types. -/
def typeKinds : List String :=
  ["type_alias_declaration", "interface_declaration", "enum_declaration", "type_annotation",
    "opting_type_annotation", "omitting_type_annotation", "adding_type_annotation",
    "asserts_annotation", "type_predicate_annotation", "type_parameter", "constraint",
    "default_type", "predefined_type", "object_type", "interface_body", "union_type",
    "intersection_type", "array_type", "tuple_type", "function_type", "constructor_type",
    "conditional_type", "infer_type", "type_predicate", "asserts", "type_query",
    "index_type_query", "lookup_type", "parenthesized_type", "literal_type",
    "template_literal_type", "template_type", "readonly_type", "optional_type", "rest_type",
    "this_type", "existential_type", "mapped_type_clause", "index_signature", "call_signature",
    "construct_signature"]

/-- Kinds of text in markup. -/
def markupKinds : List String :=
  ["jsx_text", "html_character_reference"]

/-- Kinds of references to types. -/
def referenceKinds : List String :=
  ["type_identifier", "nested_type_identifier", "generic_type"]

/-- Kinds of classes. -/
def classKinds : List String :=
  ["class_declaration", "abstract_class_declaration", "class"]

/-- Kinds whose name declares a type. -/
def typeDeclaringKinds : List String :=
  ["interface_declaration", "type_alias_declaration", "type_parameter", "infer_type",
    "mapped_type_clause"]

/-- Whether the name of a class, which is one in the base language too, stands here. -/
def isClassName (site : Site) : Bool :=
  site.node.kind == "type_identifier" &&
    site.parent.any fun parent => classKinds.contains parent.kind

/-- Whether a type is declared under this name here, so that the name refers to nothing. -/
def isDeclaredType (site : Site) : Bool :=
  site.node.kind == "type_identifier" &&
    site.parent.any (fun parent => typeDeclaringKinds.contains parent.kind) && site.isNameOfParent

/-- Whether the node is part of a larger reference, which decides for the whole name. -/
def isInnerReference (site : Site) : Bool :=
  site.parent.any fun parent =>
    parent.kind == "generic_type" || parent.kind == "nested_type_identifier"

namespace Reading

/-- The name that a reference to a type refers to, without blanks. -/
def referenceName (reading : Reading) (node : Node) : List Char :=
  if node.kind == "generic_type" then
    match node.field? "name" with
    | some name => withoutBlanks (reading.textOf name)
    | none => []
  else withoutBlanks (reading.textOf node)

/-- The layer of a reference to a type. -/
def referenceLayer (reading : Reading) (site : Site) : Layer :=
  if isClassName site then .javascript
  else if isDeclaredType site || isInnerReference site then .typescript
  else if reading.vocabulary.isLibraryType (reading.referenceName site.node) then .react
  else .typescript

/-- The layer of a node by its kind; other kinds have none. The namespace of the library is part of
the library wherever it stands as a name. -/
def defaultLayer? (reading : Reading) (site : Site) : Option Layer :=
  let kind := site.node.kind
  if referenceKinds.contains kind then some (reading.referenceLayer site)
  else if typeKinds.contains kind then some .typescript
  else if markupKinds.contains kind then some .jsx
  else if kind == "identifier" && reading.nameOf site.node == reading.vocabulary.library.val then
    some .react
  else if baseKinds.contains kind then some .javascript
  else none

/-- The step at a node that no rule takes: its layer, if it has one, and on to its content. -/
def defaultStep (reading : Reading) (site : Site) : Step :=
  Step.through site.node
    (match reading.defaultLayer? site with
    | some layer => mark site.node layer
    | none => [])

end Reading

end SourceLayers
