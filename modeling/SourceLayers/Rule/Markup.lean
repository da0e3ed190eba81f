/-
Rules of markup:

* `Reading.genericArrow?`: an arrow function with a type parameter that was read as an element;
* `Reading.openingTag`, `Reading.closingTag`: tags, whose names may lie in the namespace of the
  library;
* `Reading.embedded`: an expression between braces, or a spread;
* `Reading.markupAttribute`: an attribute and its value.
-/
import SourceLayers.Rule.Basic

namespace SourceLayers

/-- The kinds of the tags of an element. -/
def elementTagKinds : List String :=
  ["jsx_opening_element", "jsx_closing_element"]

/-- Passes over tags and over the first child that is none, and visits all others. -/
def bodyFates : List Node → List Fate
  | [] => []
  | child :: rest =>
    if elementTagKinds.contains child.kind then .skip :: bodyFates rest
    else .skip :: rest.map fun child =>
      if elementTagKinds.contains child.kind then .skip else .enter

/-- The offset of the first character from `first` on that is not blank, but at most `stop`. The
text must reach that far. -/
def skipBlanksUpTo (text : List Char) (first stop : Nat) : Except OffsetFault Nat :=
  let next := first + ((text.drop first).takeWhile isBlank).length
  if stop ≤ first then .ok first
  else if stop ≤ next then .ok stop
  else if next < text.length then .ok next
  else .error ⟨next⟩

/-- The character before an offset. The text must reach that far. -/
def charBefore (text : List Char) (offset : Nat) : Except OffsetFault Char :=
  match text[offset - 1]? with
  | some c => .ok c
  | none => .error ⟨(offset : Int) - 1⟩

/-- A claim on the last character of a stretch, if it is a closing brace. An empty stretch is not
read. -/
def closingBrace (text : List Char) (start stop : Nat) : Except OffsetFault (List Candidate) :=
  if start < stop then do
    let c ← charBefore text stop
    return if c = '\x7d' then claim (stop - 1 : Int) stop .jsx else []
  else .ok []

namespace Reading

/-- Whether the name of a tag begins with the namespace of the library. -/
def isNamespacedTag (reading : Reading) (name : Node) : Bool :=
  ["member_expression", "nested_identifier"].contains name.kind &&
    match name.content with
    | [] => false
    | first :: _ =>
      first.kind == "identifier" && reading.nameOf first == reading.vocabulary.library.val

/-- An element whose opening tag is a bare name and whose text holds an arrow before anything else
is an arrow function with a type parameter: the tag is its parameter list, and the rest is base
language. -/
def genericArrow? (reading : Reading) (node : Node) : Option Step := do
  let tag ← node.field? "open_tag"
  guard (tag.kind == "jsx_opening_element")
  let name ← tag.field? "name"
  guard (name.kind == "identifier")
  guard (tag.fields "attribute").isEmpty
  let body := node.content.filter fun child => !elementTagKinds.contains child.kind
  let first ← body.head?
  guard (first.kind == "jsx_text")
  let boundary := match body[1]? with
    | some next => next.start
    | none => node.stop
  guard (occursIn ['=', '>'] (cut reading.text tag.stop boundary))
  some
    { emitted := claim node.start tag.stop .typescript ++ claim tag.stop node.stop .javascript
      fates := bodyFates node.content }

/-- The closing mark at the end of an opening tag; a tag that is cut off has none. -/
def tagEnd (reading : Reading) (node : Node) : List Candidate :=
  if node.kind == "jsx_self_closing_element" then
    if cut reading.text (node.stop - 2) node.stop == ['/', '>'] then
      claim (node.stop - 2 : Int) node.stop .jsx
    else []
  else if cut reading.text (node.stop - 1) node.stop == ['>'] then
    claim (node.stop - 1 : Int) node.stop .jsx
  else []

/-- An opening or self-closing tag. A fragment has no name and is markup as a whole; else the tag is
markup up to the end of its name, or the name belongs to the library. -/
def openingTag (reading : Reading) (node : Node) : Step :=
  match node.field? "name" with
  | none => Step.stop (claim node.start node.stop .jsx)
  | some name =>
    let head :=
      if reading.isNamespacedTag name then
        claim node.start (node.start + 1) .jsx ++ mark name .react
      else claim node.start name.stop .jsx
    Step.through node
      (head ++ reading.bracketMarks (node.field? "type_arguments") ++ reading.tagEnd node)

/-- A closing tag. -/
def closingTag (reading : Reading) (node : Node) : Step :=
  match (node.field? "name").filter reading.isNamespacedTag with
  | some name =>
    Step.stop (claim node.start (node.start + 2) .jsx ++ mark name .react ++
      claim (node.stop - 1 : Int) node.stop .jsx)
  | none => Step.stop (claim node.start node.stop .jsx)

/-- An expression in markup: its braces are markup, and so are the three points of a spread. The
closing brace is missing in unfinished text. -/
def embedded (reading : Reading) (node : Node) : Except OffsetFault Step := do
  let opensSpread := node.content.head?.any fun first => first.kind == "spread_element"
  if opensSpread then
    let spread ← skipBlanksUpTo reading.text (node.start + 1) node.stop
    let brace ← closingBrace reading.text spread node.stop
    return Step.through node (claim node.start (spread + 3) .jsx ++ brace)
  else
    let brace ← closingBrace reading.text (node.start + 1) node.stop
    return Step.through node (claim node.start (node.start + 1) .jsx ++ brace)

/-- An attribute: its name is markup unless the library reads it, and a text as its value is markup
too. Any other value is visited. -/
def markupAttribute (reading : Reading) (node : Node) : Step :=
  match node.content with
  | [] => Step.stop []
  | name :: values =>
    let layer :=
      if reading.vocabulary.jsxAttributes.contains (reading.nameOf name) then .react else .jsx
    match values with
    | [] => Step.stop (mark name layer)
    | value :: _ =>
      let emitted := mark name layer ++ claim name.stop value.start .jsx
      if value.kind == "string" then Step.stop (emitted ++ mark value .jsx)
      else { emitted, fates := Step.enterOnly 1 }

end Reading

end SourceLayers
