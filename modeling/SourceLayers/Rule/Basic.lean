/-
What a rule reads and what it answers:

* `Reading`: the text and the vocabulary;
* `Step`: the candidates that a rule emits, the enumerations it declares, and the fates of the
  content children;
* `claim`, `mark`: candidates on given bounds, and on a node;
* `Reading.bracketMarks`, `modifierMarks`, `annotationMarks`: marks that several rules share.

Bounds may be computed past either end of a node; a claim on an empty stretch, or on one that begins
before the text, is dropped.
-/
import SourceLayers.Bracket
import SourceLayers.Span
import SourceLayers.Text.Blank
import SourceLayers.Tree.Site
import SourceLayers.Vocabulary.Basic

namespace SourceLayers

/-- What the rules read: the text, and the names of the library. -/
structure Reading where
  text : List Char
  vocabulary : Vocabulary

/-- The answer of a rule that applies to a node. -/
structure Step where
  /-- The candidates, in the order in which they are emitted. -/
  emitted : List Candidate := []
  /-- The names of the enumerations that are declared here. -/
  declared : List String := []
  /-- What becomes of the content children. -/
  fates : List Fate := []

/-- A candidate of a layer on the given bounds, if they hold anything. -/
def claim (start stop : Int) (layer : Layer) : List Candidate :=
  (Candidate.make? start stop layer).toList

/-- A candidate of a layer on a node. -/
def mark (node : Node) (layer : Layer) : List Candidate :=
  claim node.start node.stop layer

namespace Step

/-- Visits all content children. -/
def enterAll (node : Node) : List Fate :=
  node.content.map fun _ => .enter

/-- Visits one content child, by its position. -/
def enterOnly (i : Nat) : List Fate :=
  List.replicate i .skip ++ [.enter]

/-- Emits candidates and visits all content children. -/
def through (node : Node) (emitted : List Candidate) : Step :=
  { emitted, fates := enterAll node }

/-- Emits candidates and visits nothing below. -/
def stop (emitted : List Candidate) : Step :=
  { emitted }

end Step

namespace Reading

/-- The text of a node. -/
def textOf (reading : Reading) (node : Node) : List Char :=
  cut reading.text node.start node.stop

/-- The text of a node, as a name. -/
def nameOf (reading : Reading) (node : Node) : String :=
  String.ofList (reading.textOf node)

/-- The brackets around the entries of a list, found in the text from the first entry. -/
def bracketMarks (reading : Reading) (list : Option Node) : List Candidate :=
  match list.bind fun node => node.content.head? with
  | none => []
  | some entry =>
    match bracketRange? reading.text entry.start with
    | some (start, stop) => claim start stop .typescript
    | none => []

end Reading

/-- The kinds of modifiers that only the typed language has. -/
def modifierKinds : List String :=
  ["accessibility_modifier", "override_modifier", "readonly", "abstract", "accessor", "declare"]

/-- The modifiers of a declaration. -/
def modifierMarks (node : Node) : List Candidate :=
  (node.ofKinds modifierKinds).flatMap fun modifier => mark modifier .typescript

/-- A type annotation, from its colon on; a question mark before it is part of it. -/
def annotationMarks (node : Node) (typeNode : Option Node) : List Candidate :=
  match typeNode with
  | none => []
  | some typeNode =>
    let start :=
      match node.token? "?" with
      | some optional => min optional.start typeNode.start
      | none => typeNode.start
    claim start typeNode.stop .typescript

/-- A return type. -/
def returnMarks (node : Node) : List Candidate :=
  match node.field? "return_type" with
  | some type => mark type .typescript
  | none => []

end SourceLayers
