/-
Rules of imports and exports:

* `importSpecifiers`, `exportSpecifiers`: the names that a statement lists;
* `Reading.moduleStatement`: a statement that imports or exports types alone is typed language as a
  whole; else its single type specifiers are.

A listed name that is a type of the library belongs to the library.
-/
import SourceLayers.Rule.Basic

namespace SourceLayers

/-- The content children of a kind. -/
def contentOf (node : Node) (kind : String) : List Node :=
  node.content.filter fun child => child.kind == kind

/-- The specifiers of an import. -/
def importSpecifiers (node : Node) : List Node :=
  (contentOf node "import_clause").flatMap fun clause =>
    (contentOf clause "named_imports").flatMap fun list => contentOf list "import_specifier"

/-- The specifiers of an export. -/
def exportSpecifiers (node : Node) : List Node :=
  (contentOf node "export_clause").flatMap fun list => contentOf list "export_specifier"

/-- The name that a specifier binds: its alias, or else its name. -/
def boundName? (specifier : Node) : Option Node :=
  (specifier.field? "alias").or (specifier.field? "name")

namespace Reading

/-- Whether a node is the name of a type of the library. -/
def isTypeName (reading : Reading) (node : Node) : Bool :=
  reading.vocabulary.types.contains (reading.nameOf node)

/-- The names of the library among the specifiers of a statement about types. -/
def typeOnlyMarks (reading : Reading) (specifiers : List Node) : List Candidate :=
  specifiers.flatMap fun specifier =>
    match boundName? specifier with
    | some bound => if reading.isTypeName bound then mark bound .react else []
    | none => []

/-- The specifiers with a `type` of their own: typed language up to the bound name, and the name
itself. -/
def typeSpecifierMarks (reading : Reading) (specifiers : List Node) : List Candidate :=
  (specifiers.filter fun specifier => specifier.hasToken "type").flatMap fun specifier =>
    match boundName? specifier with
    | some bound =>
      claim specifier.start bound.start .typescript ++
        mark bound (if reading.isTypeName bound then .react else .typescript)
    | none => []

/-- An import or export with its specifiers. -/
def moduleStatement (reading : Reading) (node : Node) (specifiers : List Node) : Step :=
  if node.hasToken "type" then
    Step.stop (mark node .typescript ++ reading.typeOnlyMarks specifiers)
  else
    Step.through node (mark node .javascript ++ reading.typeSpecifierMarks specifiers)

end Reading

end SourceLayers
