/-
Rules of declarations and statements:

* `Reading.expressionStatement?`: a text on its own may be a directive of the library;
* `Reading.usingDeclaration?`, `Reading.recoveredUsing?`: the keywords `using` and `await using`,
  also where the parser recovered them as an assignment;
* `recoveredAssignmentUpTo?`, `Reading.recoveredUsingUpTo?`, `Reading.expressionStatementUpTo?`: the
  same where calls can nest only so deep, with the fault of a search that goes deeper;
* `Reading.ambient`, `Reading.enumDeclaration`: declarations that are types as a whole; they declare
  the names of enumerations;
* `Reading.classDeclaration`, `Reading.functionDeclaration`, `Reading.methodDeclaration`: base
  language with types in it;
* `decoratorStep`: decorators.
-/
import SourceLayers.Rule.Basic

namespace SourceLayers

/-- A decorator is typed language as a whole. -/
def decoratorStep (node : Node) : Step :=
  Step.stop (mark node .typescript)

/-- Whether a statement is a text alone. -/
def Node.isTextAlone (node : Node) : Bool :=
  match node.content with
  | [only] => only.kind == "string"
  | _ => false

/-! ### Keywords before a binding -/

mutual
/-- The first assignment in the content of a node, looked for through errors and awaits too. -/
def recoveredAssignment? : Node → Option Node
  | ⟨_, _, _, _, _, _, children⟩ => recoveredAssignmentAmong? children

/-- The same among some children. -/
def recoveredAssignmentAmong? : List Node → Option Node
  | [] => none
  | child :: rest =>
    if !child.isContent then recoveredAssignmentAmong? rest
    else if child.kind == "assignment_expression" then some child
    else if child.kind == "ERROR" || child.kind == "await_expression" then
      (recoveredAssignment? child).or (recoveredAssignmentAmong? rest)
    else recoveredAssignmentAmong? rest
end

/-- Calls that nest deeper than there is room for. -/
structure DepthFault where
  deriving DecidableEq, Repr

/-- The wording of the fault. -/
def DepthFault.message (_ : DepthFault) : String :=
  "maximum recursion depth exceeded"

mutual
/-- The search for the first assignment where no more than `room` calls can nest. It is called again
for every error and every await on its way down. -/
def recoveredAssignmentUpTo? : (room : Nat) → Node → Except DepthFault (Option Node)
  | 0, _ => .error {}
  | room + 1, ⟨_, _, _, _, _, _, children⟩ => recoveredAssignmentAmongUpTo? room children

/-- The same among some children. -/
def recoveredAssignmentAmongUpTo? :
    (room : Nat) → List Node → Except DepthFault (Option Node)
  | _, [] => .ok none
  | room, child :: rest =>
    if !child.isContent then recoveredAssignmentAmongUpTo? room rest
    else if child.kind == "assignment_expression" then .ok (some child)
    else if child.kind == "ERROR" || child.kind == "await_expression" then
      match recoveredAssignmentUpTo? room child with
      | .error fault => .error fault
      | .ok (some found) => .ok (some found)
      | .ok none => recoveredAssignmentAmongUpTo? room rest
    else recoveredAssignmentAmongUpTo? room rest
end

namespace Reading

/-- The keywords from a node's start up to its first binding, if they are `using`, or end in it and
hold nothing but it and `await`. -/
def usingMarks? (reading : Reading) (node : Node) (binding : Nat) : Option (List Candidate) :=
  let before := cut reading.text node.start binding
  let keywords := words before
  if keywords.getLast? = some "using".toList ∧
      keywords.all (fun word => word = "await".toList || word = "using".toList) then
    some (claim node.start (node.start + (trimEnd before).length : Nat) .typescript)
  else none

/-- A declaration whose bindings follow on `using`. -/
def usingDeclaration? (reading : Reading) (node : Node) : Option Step := do
  let binding ← node.content.find? fun child => child.kind == "variable_declarator"
  let keywords ← reading.usingMarks? node binding.start
  some (Step.through node (keywords ++ mark node .javascript))

/-- The same where an assignment was recovered in a node. -/
def assignedUsing? (reading : Reading) (node assignment : Node) : Option Step := do
  let left ← assignment.field? "left"
  let keywords ← reading.usingMarks? node left.start
  some (Step.through node (keywords ++ mark node .javascript))

/-- The same where the parser does not know `using` and recovered an assignment. -/
def recoveredUsing? (reading : Reading) (node : Node) : Option Step := do
  let assignment ← recoveredAssignment? node
  reading.assignedUsing? node assignment

/-- The same with a search in which no more than `room` calls can nest. -/
def recoveredUsingUpTo? (reading : Reading) (room : Nat) (node : Node) :
    Except DepthFault (Option Step) := do
  let assignment ← recoveredAssignmentUpTo? room node
  return assignment.bind (reading.assignedUsing? node)

/-- A statement that is a text alone: a directive of the library, or base language. Any other is
searched for a recovered assignment. -/
def expressionStatement? (reading : Reading) (node : Node) : Option Step :=
  match node.content with
  | [only] =>
    if only.kind == "string" then
      let directive := String.ofList ((reading.textOf only).drop 1).dropLast
      some (Step.stop (mark node
        (if reading.vocabulary.directives.contains directive then .react else .javascript)))
    else reading.recoveredUsing? node
  | _ => reading.recoveredUsing? node

/-- The same where no more than `room` calls can nest. A text on its own is not searched, and any
other statement is searched one call further in. -/
def expressionStatementUpTo? (reading : Reading) (room : Nat) (node : Node) :
    Except DepthFault (Option Step) :=
  if node.isTextAlone then .ok (reading.expressionStatement? node)
  else reading.recoveredUsingUpTo? (room - 1) node

/-! ### Enumerations -/

/-- The name that an enumeration declares. -/
def enumName (reading : Reading) (node : Node) : List String :=
  ((node.field? "name").map reading.nameOf).toList

/-- An enumeration is typed language as a whole, and its name is declared. -/
def enumDeclaration (reading : Reading) (node : Node) : Step :=
  { emitted := mark node .typescript, declared := reading.enumName node }

/-- An ambient declaration, or a module, is typed language as a whole. The enumerations directly in
it are declared. -/
def ambient (reading : Reading) (node : Node) : Step :=
  { emitted := mark node .typescript
    declared :=
      (node.content.filter fun child => child.kind == "enum_declaration").flatMap
        reading.enumName }

/-! ### Classes, functions and methods -/

/-- A class. -/
def classDeclaration (reading : Reading) (node : Node) : Step :=
  let abstractMarks :=
    match node.token? "abstract" with
    | some token => mark token .typescript
    | none => []
  Step.through node
    (mark node .javascript ++ abstractMarks ++
      reading.bracketMarks (node.field? "type_parameters"))

/-- A function. -/
def functionDeclaration (reading : Reading) (node : Node) : Step :=
  Step.through node
    (mark node .javascript ++ returnMarks node ++
      reading.bracketMarks (node.field? "type_parameters"))

/-- A method. The signatures of interfaces have no base language under them. -/
def methodDeclaration (reading : Reading) (site : Site) : Step :=
  let node := site.node
  let inClass :=
    node.kind == "method_definition" ||
      site.parent.any fun parent => parent.kind == "class_body"
  Step.through node
    ((if inClass then mark node .javascript else []) ++ modifierMarks node ++ returnMarks node ++
      reading.bracketMarks (node.field? "type_parameters"))

end Reading

end SourceLayers
