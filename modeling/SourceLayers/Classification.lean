/-
The classification of a text:

* `Classification`: the regions of a text, its length, and what was counted on the way;
* `classify`: a blank text has no regions and is not parsed; any other is parsed, walked, scanned
  for comments and resolved;
* `classifyUpTo`: the same where the calls of a rule can nest only so deep;
* `Classification.toJson`: its record;
* `textOfJson`: a text given as a JSON value, which may be no text.
-/
import SourceLayers.Document.Trivia
import SourceLayers.Json.Basic
import SourceLayers.Region.Lookup
import SourceLayers.Walk

namespace SourceLayers

/-- What was counted while a text was classified. -/
structure Diagnostics where
  /-- The candidates of the walk, without those of the comments. -/
  candidateCount : Nat := 0
  /-- The candidates of the comments. -/
  commentCount : Nat := 0
  /-- The errors that the parser recovered from. -/
  parseErrorCount : Nat := 0
  /-- The enumerations that the text declares. -/
  enumNames : NameSet := NameSet.empty

/-- The regions of a text. -/
structure Classification where
  regions : List Region := []
  textLength : Nat
  diagnostics : Diagnostics := {}
  /-- Whether the text was parsed; a blank one is not. -/
  parsed : Bool := false

/-- The walk over a document, from its root. -/
def Document.walk (document : Document) (vocabulary : Vocabulary) (enums : NameSet) :
    Except OffsetFault Trace :=
  Reading.walk ⟨document.text, vocabulary⟩ enums [Site.root document.root]

/-- The same where no more than `room` calls of a rule can nest. -/
def Document.walkUpTo (document : Document) (room : Nat) (vocabulary : Vocabulary)
    (enums : NameSet) : Except WalkFault Trace :=
  Reading.walkUpTo ⟨document.text, vocabulary⟩ room enums [Site.root document.root]

/-- The classification of a document after a walk over it. -/
def Document.classificationOf (document : Document) (trace : Trace) : Classification :=
  let comments := document.commentCandidates
  { regions := resolve (trace.emitted ++ comments) document.text.length
    textLength := document.text.length
    diagnostics :=
      { candidateCount := trace.emitted.length
        commentCount := comments.length
        parseErrorCount := document.errorCount
        enumNames := trace.enums }
    parsed := true }

/-- The classification of a document. -/
def Document.classify (document : Document) (vocabulary : Vocabulary) :
    Except OffsetFault Classification :=
  document.classificationOf <$> document.walk vocabulary NameSet.empty

/-- The classification of a text, given a parser for it. -/
def classify (vocabulary : Vocabulary) (parse : List Char → Node) (text : List Char) :
    Except OffsetFault Classification :=
  if isBlankText text then .ok { textLength := text.length }
  else do
    let document ← Document.ofTree (SourceText.ofText text) (parse text)
    document.classify vocabulary

/-- The same where no more than `room` calls of a rule can nest. -/
def classifyUpTo (room : Nat) (vocabulary : Vocabulary) (parse : List Char → Node)
    (text : List Char) : Except WalkFault Classification :=
  if isBlankText text then .ok { textLength := text.length }
  else do
    let document ← (Document.ofTree (SourceText.ofText text) (parse text)).mapError .offset
    document.classificationOf <$> document.walkUpTo room vocabulary NameSet.empty

namespace Classification

/-- The number of characters that a layer holds. -/
def coverage (result : Classification) (layer : Layer) : Nat :=
  SourceLayers.coverage result.regions layer

end Classification

/-! ### Records -/

/-- A region as a JSON value. -/
def Region.toJson (region : Region) : Json :=
  .obj [("start", .nat region.start), ("end", .nat region.stop), ("layer", .str region.layer.name)]

/-- Counts by layer as a JSON value. -/
def coverageToJson (count : Layer → Nat) : Json :=
  .obj (Layer.all.map fun layer => (layer.name, .nat (count layer)))

/-- The counts as a JSON value, with the time taken if it is given. -/
def Diagnostics.toJson (diagnostics : Diagnostics) (runtimeMs : Option Nat) : Json :=
  .obj
    ([("candidate_count", .nat diagnostics.candidateCount),
      ("comment_count", .nat diagnostics.commentCount),
      ("enum_names", .strings diagnostics.enumNames.toList),
      ("parse_error_count", .nat diagnostics.parseErrorCount)] ++
      (runtimeMs.map fun time => ("runtime_ms", Json.nat time)).toList)

/-- The fields of the record of a classification. -/
def Classification.fields (result : Classification) (runtimeMs : Option Nat) :
    List (String × Json) :=
  [("text_length", .nat result.textLength),
    ("regions", .arr (result.regions.map Region.toJson)),
    ("layer_coverage", coverageToJson result.coverage),
    ("diagnostics", result.diagnostics.toJson runtimeMs)]

/-- The record of a classification. -/
def Classification.toJson (result : Classification) (runtimeMs : Option Nat) : Json :=
  .obj (result.fields runtimeMs)

/-! ### Texts given as values -/

/-- The kind of a value, as messages call it. -/
def Json.typeName : Json → String
  | .null => "NoneType"
  | .bool _ => "bool"
  | .int _ => "int"
  | .decimal _ => "float"
  | .str _ => "str"
  | .arr _ => "list"
  | .obj _ => "dict"

/-- A value that is no text. -/
structure NotText where
  typeName : String

/-- The wording of the refusal. -/
def NotText.message (fault : NotText) : String :=
  "text must be str, got " ++ fault.typeName

/-- The text that a value holds. -/
def textOfJson (value : Json) : Except NotText (List Char) :=
  match value with
  | .str text => .ok text.toList
  | other => .error ⟨other.typeName⟩

end SourceLayers
