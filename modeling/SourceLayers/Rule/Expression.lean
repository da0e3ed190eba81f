/-
Rules of expressions:

* `Reading.enumAccess?`: a member of an enumeration that has been declared;
* `Reading.call`: calls of hooks, utilities, the element factory, and whatever lies in the namespace
  of the library;
* `Reading.construction`: an object built by `new`.
-/
import SourceLayers.Rule.Basic

namespace SourceLayers

namespace Reading

/-- A member of an enumeration is typed language as a whole. -/
def enumAccess? (reading : Reading) (enums : NameSet) (node : Node) : Option Step := do
  let target ← node.field? "object"
  guard (target.kind == "identifier")
  guard (enums.contains (reading.nameOf target))
  some (Step.stop (mark node .typescript))

/-- The component that is passed to the element factory: a name written like one, or a member of the
library. -/
def componentMarks (reading : Reading) (first : Node) : List Candidate :=
  if first.kind == "identifier" && isPascalCase (reading.textOf first) then mark first .react
  else if first.kind == "member_expression" then
    match first.field? "object" with
    | some target =>
      if reading.nameOf target == reading.vocabulary.library.val then mark first .react else []
    | none => []
  else []

/-- The keys named `key` of an object. -/
def keyMarks (reading : Reading) (properties : Node) : List Candidate :=
  if properties.kind == "object" then
    (properties.content.filter fun child => child.kind == "pair").flatMap fun pair =>
      match pair.field? "key" with
      | some key =>
        if key.kind == "property_identifier" && reading.nameOf key == "key" then mark key .react
        else []
      | none => []
  else []

/-- The arguments of the element factory: the component, and the keys of its properties. -/
def factoryMarks (reading : Reading) (arguments : Option Node) : List Candidate :=
  match arguments.filter fun node => node.kind == "arguments" with
  | none => []
  | some node =>
    match node.content with
    | [] => []
    | [first] => reading.componentMarks first
    | first :: properties :: _ => reading.componentMarks first ++ reading.keyMarks properties

/-- A call by its callee, which is compared without blanks. A callee of the library is marked; a
call of the element factory has its arguments marked and no base language of its own. -/
def calleeMarks (reading : Reading) (node callee : Node) : List Candidate :=
  let name := withoutBlanks (reading.textOf callee)
  let vocabulary := reading.vocabulary
  if vocabulary.isHookCall name || vocabulary.utilities.contains (String.ofList name) then
    mark callee .react ++ mark node .javascript
  else if vocabulary.isElementFactory name then
    mark callee .react ++ reading.factoryMarks (node.field? "arguments")
  else if vocabulary.isNamespaced name then
    mark callee .react ++ mark node .javascript
  else mark node .javascript

/-- A call. -/
def call (reading : Reading) (node : Node) : Step :=
  let rest :=
    match node.field? "function" with
    | none => mark node .javascript
    | some callee => reading.calleeMarks node callee
  Step.through node (reading.bracketMarks (node.field? "type_arguments") ++ rest)

/-- An object that is built. -/
def construction (reading : Reading) (node : Node) : Step :=
  Step.through node
    (mark node .javascript ++ reading.bracketMarks (node.field? "type_arguments"))

end Reading

end SourceLayers
