/-
Which rule takes which node:

* `Rule`, `Rule.ofKind?`: the rules, and the kinds they are for;
* `Rule.apply`: what a rule answers at a node. A rule may decline, and then has emitted nothing;
* `Reading.visit`: the step at a node, by its rule or by default;
* `WalkFault`, `Rule.applyUpTo`, `Reading.visitUpTo`: the same where calls can nest only so deep.
-/
import SourceLayers.Rule.Declaration
import SourceLayers.Rule.Default
import SourceLayers.Rule.Expression
import SourceLayers.Rule.Markup
import SourceLayers.Rule.Module
import SourceLayers.Rule.Typing

namespace SourceLayers

/-- The rules. -/
inductive Rule where
  | element
  | openingTag
  | closingTag
  | embedded
  | markupAttribute
  | decorator
  | expressionStatement
  | awaitExpression
  | ambient
  | variableDeclaration
  | heritage
  | instantiation
  | typeOperator
  | typeAssertion
  | nonNull
  | declarator
  | typedBinding
  | propertySignature
  | importStatement
  | exportStatement
  | enumDeclaration
  | memberAccess
  | call
  | construction
  | classDeclaration
  | functionDeclaration
  | methodDeclaration
  deriving DecidableEq, Repr

namespace Rule

/-- The kinds that a rule is for. -/
def kinds : Rule → List String
  | .element => ["jsx_element"]
  | .openingTag => ["jsx_self_closing_element", "jsx_opening_element"]
  | .closingTag => ["jsx_closing_element"]
  | .embedded => ["jsx_expression"]
  | .markupAttribute => ["jsx_attribute"]
  | .decorator => ["decorator"]
  | .expressionStatement => ["expression_statement"]
  | .awaitExpression => ["await_expression"]
  | .ambient => ["ambient_declaration", "module", "internal_module"]
  | .variableDeclaration =>
    ["lexical_declaration", "variable_declaration", "using_declaration"]
  | .heritage => ["extends_clause", "implements_clause", "extends_type_clause"]
  | .instantiation => ["instantiation_expression"]
  | .typeOperator => ["as_expression", "satisfies_expression"]
  | .typeAssertion => ["type_assertion"]
  | .nonNull => ["non_null_expression"]
  | .declarator => ["variable_declarator"]
  | .typedBinding =>
    ["required_parameter", "optional_parameter", "public_field_definition", "field_definition"]
  | .propertySignature => ["property_signature"]
  | .importStatement => ["import_statement"]
  | .exportStatement => ["export_statement"]
  | .enumDeclaration => ["enum_declaration"]
  | .memberAccess => ["member_expression"]
  | .call => ["call_expression"]
  | .construction => ["new_expression"]
  | .classDeclaration => classKinds
  | .functionDeclaration =>
    ["function_declaration", "generator_function_declaration", "function_expression", "function",
      "generator_function", "arrow_function", "function_signature"]
  | .methodDeclaration =>
    ["method_definition", "method_signature", "abstract_method_signature"]

/-- All rules. -/
def all : List Rule :=
  [.element, .openingTag, .closingTag, .embedded, .markupAttribute, .decorator,
    .expressionStatement, .awaitExpression, .ambient, .variableDeclaration, .heritage,
    .instantiation, .typeOperator, .typeAssertion, .nonNull, .declarator, .typedBinding,
    .propertySignature, .importStatement, .exportStatement, .enumDeclaration, .memberAccess,
    .call, .construction, .classDeclaration, .functionDeclaration, .methodDeclaration]

/-- The rule for a kind. No kind has two. -/
def ofKind? (kind : String) : Option Rule :=
  all.find? fun rule => rule.kinds.contains kind

/-- What a rule answers at a node; `none` is to decline. -/
def apply (reading : Reading) (enums : NameSet) (site : Site) :
    Rule → Except OffsetFault (Option Step)
  | .element => .ok (reading.genericArrow? site.node)
  | .openingTag => .ok (some (reading.openingTag site.node))
  | .closingTag => .ok (some (reading.closingTag site.node))
  | .embedded => some <$> reading.embedded site.node
  | .markupAttribute => .ok (some (reading.markupAttribute site.node))
  | .decorator => .ok (some (decoratorStep site.node))
  | .expressionStatement => .ok (reading.expressionStatement? site.node)
  | .awaitExpression => .ok (reading.recoveredUsing? site.node)
  | .ambient => .ok (some (reading.ambient site.node))
  | .variableDeclaration => .ok (reading.usingDeclaration? site.node)
  | .heritage => .ok (some (reading.heritage site.node))
  | .instantiation => .ok (reading.instantiation? site.node)
  | .typeOperator => .ok (typeOperator? site.node)
  | .typeAssertion => .ok (typeAssertion? site.node)
  | .nonNull => .ok (nonNull? site.node)
  | .declarator => .ok (typedDeclarator? site.node)
  | .typedBinding => .ok (some (typedBindingStep site.node))
  | .propertySignature => .ok (some (propertySignatureStep site.node))
  | .importStatement =>
    .ok (some (reading.moduleStatement site.node (importSpecifiers site.node)))
  | .exportStatement =>
    .ok (some (reading.moduleStatement site.node (exportSpecifiers site.node)))
  | .enumDeclaration => .ok (some (reading.enumDeclaration site.node))
  | .memberAccess => .ok (reading.enumAccess? enums site.node)
  | .call => .ok (some (reading.call site.node))
  | .construction => .ok (some (reading.construction site.node))
  | .classDeclaration => .ok (some (reading.classDeclaration site.node))
  | .functionDeclaration => .ok (some (reading.functionDeclaration site.node))
  | .methodDeclaration => .ok (some (reading.methodDeclaration site))

end Rule

/-- The step at a node: that of its rule, or the default one where there is no rule or the rule
declines. -/
def Reading.visit (reading : Reading) (enums : NameSet) (site : Site) : Except OffsetFault Step :=
  match Rule.ofKind? site.node.kind with
  | none => .ok (reading.defaultStep site)
  | some rule => (fun answer => answer.getD (reading.defaultStep site)) <$>
      rule.apply reading enums site

/-! ### Calls that nest -/

/-- Why a walk cannot go on: an offset without a place, or calls that nest too deep. -/
inductive WalkFault where
  | offset (fault : OffsetFault)
  | depth (fault : DepthFault)

/-- What a rule answers at a node where no more than `room` calls can nest. Only the searches for a
recovered assignment nest as deep as the tree. -/
def Rule.applyUpTo (reading : Reading) (room : Nat) (enums : NameSet) (site : Site) :
    Rule → Except WalkFault (Option Step)
  | .expressionStatement => (reading.expressionStatementUpTo? room site.node).mapError .depth
  | .awaitExpression => (reading.recoveredUsingUpTo? room site.node).mapError .depth
  | rule => (rule.apply reading enums site).mapError .offset

/-- The step at a node where no more than `room` calls of its rule can nest. -/
def Reading.visitUpTo (reading : Reading) (room : Nat) (enums : NameSet) (site : Site) :
    Except WalkFault Step :=
  match Rule.ofKind? site.node.kind with
  | none => .ok (reading.defaultStep site)
  | some rule => (fun answer => answer.getD (reading.defaultStep site)) <$>
      rule.applyUpTo reading room enums site

end SourceLayers
