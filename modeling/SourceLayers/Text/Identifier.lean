/-
Identifiers of the source language's name grammar:

* `isIdentifier`: a first character that may begin an identifier, then characters that may
  continue one;
* `Identifier`: texts of that form.
-/
import SourceLayers.Text.Tables.Identifier

namespace SourceLayers

/-- Whether a character may begin an identifier. -/
def isIdentifierStart (c : Char) : Bool :=
  identifierStartRanges.contains c

/-- Whether a character may stand in an identifier after its first character. -/
def isIdentifierContinue (c : Char) : Bool :=
  isIdentifierStart c || identifierOnlyContinueRanges.contains c

/-- Whether a text is an identifier. The empty text is none; reserved words are identifiers. -/
def isIdentifier (text : String) : Bool :=
  match text.toList with
  | [] => false
  | c :: rest => isIdentifierStart c && rest.all isIdentifierContinue

/-- A text that is an identifier. -/
abbrev Identifier := { text : String // isIdentifier text = true }

/-- The identifier with this text, if it is one. -/
def Identifier.ofString? (text : String) : Option Identifier :=
  if h : isIdentifier text = true then some ⟨text, h⟩ else none

/-- A text is refused exactly when it is no identifier. -/
theorem Identifier.ofString?_eq_none_iff (text : String) :
    Identifier.ofString? text = none ↔ isIdentifier text = false := by
  unfold Identifier.ofString?
  split <;> simp_all

end SourceLayers
