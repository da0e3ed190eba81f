/-
Rules of types among expressions and bindings:

* `Reading.heritage`, `Reading.instantiation?`: bases of classes and interfaces, and names with type
  arguments;
* `typeOperator?`, `typeAssertion?`, `nonNull?`: operators that only the typed language has;
* `typedDeclarator?`, `typedBindingStep`, `propertySignatureStep`: bindings with type annotations.
-/
import SourceLayers.Rule.Basic

namespace SourceLayers

namespace Reading

/-- A base with its type arguments: the name may be a type of the library. -/
def baseMarks (reading : Reading) (name : Node) (arguments : Option Node) : List Candidate :=
  (if ["identifier", "type_identifier"].contains name.kind &&
      reading.vocabulary.types.contains (reading.nameOf name) then mark name .react else []) ++
    reading.bracketMarks arguments

/-- The candidates and the fates of a list of bases. Type arguments go with the base right before
them; a generic type is unwrapped into its name and its arguments; other type arguments are passed
over. -/
def heritageItems (reading : Reading) : List Node → List Candidate × List Fate
  | [] => ([], [])
  | item :: rest =>
    if item.kind == "type_arguments" then
      let (emitted, fates) := heritageItems reading rest
      (emitted, .skip :: fates)
    else if item.kind == "generic_type" then
      let (emitted, fates) := heritageItems reading rest
      let base :=
        match item.field? "name" with
        | some name => reading.baseMarks name (item.field? "type_arguments")
        | none => []
      (base ++ emitted, .unwrap :: fates)
    else
      match rest with
      | [] => (reading.baseMarks item none, [.enter])
      | following :: others =>
        if following.kind == "type_arguments" then
          let (emitted, fates) := heritageItems reading others
          (reading.baseMarks item (some following) ++ emitted, .enter :: .enter :: fates)
        else
          let (emitted, fates) := heritageItems reading (following :: others)
          (reading.baseMarks item none ++ emitted, .enter :: fates)

/-- A clause of bases. -/
def heritage (reading : Reading) (node : Node) : Step :=
  let (emitted, fates) := reading.heritageItems node.content
  { emitted, fates }

/-- A name with type arguments that is not called. -/
def instantiation? (reading : Reading) (node : Node) : Option Step := do
  let first ← node.content.head?
  some (Step.through node (reading.baseMarks first (node.field? "type_arguments")))

end Reading

/-! ### Operators -/

/-- An operand with a type after it: everything after the operand is typed language. -/
def typeOperator? (node : Node) : Option Step := do
  let operand ← node.content.head?
  some
    { emitted := mark operand .javascript ++ claim operand.stop node.stop .typescript
      fates := Step.enterOnly 0 }

/-- The last element of a list that passes a test, with its position. -/
def lastWith? (test : Node → Bool) (nodes : List Node) : Option (Nat × Node) :=
  (nodes.zipIdx.reverse.find? fun entry => test entry.1).map fun (node, i) => (i, node)

/-- A type in brackets before an operand. -/
def typeAssertion? (node : Node) : Option Step := do
  let (i, operand) ← lastWith? (fun child => child.kind != "type_arguments") node.content
  some
    { emitted := claim node.start operand.start .typescript ++ mark operand .javascript
      fates := Step.enterOnly i }

/-- An operand with an exclamation mark after it, which is the last character of the node. -/
def nonNull? (node : Node) : Option Step := do
  let operand ← node.content.head?
  some
    { emitted := mark operand .javascript ++ claim (node.stop - 1 : Int) node.stop .typescript
      fates := Step.enterOnly 0 }

/-! ### Bindings -/

/-- A declarator with a type annotation. -/
def typedDeclarator? (node : Node) : Option Step := do
  let typeNode ← node.field? "type"
  some (Step.through node (mark node .javascript ++ annotationMarks node (some typeNode)))

/-- A member of an interface has no base language under it. -/
def propertySignatureStep (node : Node) : Step :=
  Step.through node (modifierMarks node ++ annotationMarks node (node.field? "type"))

/-- A parameter or a field of a class. -/
def typedBindingStep (node : Node) : Step :=
  Step.through node
    (mark node .javascript ++ modifierMarks node ++ annotationMarks node (node.field? "type"))

end SourceLayers
