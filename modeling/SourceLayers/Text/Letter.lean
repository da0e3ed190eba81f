/-
Letter case:

* `isUppercase`: characters of the upper case;
* `lowercase`: the lowercase form of a text. Most characters have one of their own; the dotted
  capital I becomes two characters, and a capital sigma at the end of a word takes the final form.
-/
import SourceLayers.Text.Tables.Uppercase
import SourceLayers.Text.Tables.Lowercase

namespace SourceLayers

/-- Whether a code point is a member of the progression from `first` to `last` by `step`. -/
def inProgression (first last step code : Nat) : Bool :=
  first ≤ code && code ≤ last && (code - first) % step == 0

/-- Whether a character is of the upper case. Titlecase characters are not. -/
def isUppercase (c : Char) : Bool :=
  uppercaseProgressions.any fun (first, last, step) => inProgression first last step c.toNat

/-- The lowercase form of a character where it is one character; a character without one stands
for itself. -/
def lowercaseChar (c : Char) : Char :=
  match lowercaseProgressions.find? fun (first, last, step, _) =>
      inProgression first last step c.toNat with
  | some (_, _, _, shift) => Char.ofNat (c.toNat + shift).toNat
  | none => c

/-- Whether the first character that is not case-ignorable is a cased one. -/
def meetsCased (text : List Char) : Bool :=
  match text.dropWhile caseIgnorableRanges.contains with
  | [] => false
  | c :: _ => casedRanges.contains c

/-- The lowercase form of one character between the text before it, nearest character first, and
the text after it. A capital sigma is final when a cased character comes before it and none
after it. -/
def lowercaseBetween (before : List Char) (c : Char) (after : List Char) : List Char :=
  if c = 'Σ' then
    if meetsCased before && !meetsCased after then ['ς'] else ['σ']
  else if c = 'İ' then
    ['i', Char.ofNat 0x307]
  else
    [lowercaseChar c]

/-- The lowercase form of a text whose first characters, nearest first, are already passed. -/
def lowercaseFrom (before : List Char) : List Char → List Char
  | [] => []
  | c :: after => lowercaseBetween before c after ++ lowercaseFrom (c :: before) after

/-- The lowercase form of a text. -/
def lowercase (text : String) : String :=
  String.ofList (lowercaseFrom [] text.toList)

end SourceLayers
