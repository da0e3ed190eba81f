/-
Texts in quotes, as messages show them:

* `quote`: the text between quotes, with escapes for what could not be read off the page;
* `quoteList`: a list of such texts in brackets.

A text stands between single quotes unless it has a single quote and no double one.
-/
import SourceLayers.Text.Tables.Unprintable

namespace SourceLayers

/-- Whether a character has a printed form of its own. -/
def isPrintable (c : Char) : Bool :=
  !unprintableRanges.contains c

/-- The lowest `width` hexadecimal digits of a number, lowercase. -/
def hexDigits (width n : Nat) : List Char :=
  match width with
  | 0 => []
  | width + 1 => hexDigits width (n / 16) ++ [Nat.digitChar (n % 16)]

/-- A character between quotes of the given kind: the backslash and that quote are escaped, line
ends and tabs have short escapes, and other unprintable characters show their code point with two,
four or eight digits. -/
def quoteChar (mark c : Char) : List Char :=
  if c = '\\' || c = mark then ['\\', c]
  else if c = '\n' then ['\\', 'n']
  else if c = '\r' then ['\\', 'r']
  else if c = '\t' then ['\\', 't']
  else if isPrintable c then [c]
  else if c.toNat < 0x100 then '\\' :: 'x' :: hexDigits 2 c.toNat
  else if c.toNat < 0x10000 then '\\' :: 'u' :: hexDigits 4 c.toNat
  else '\\' :: 'U' :: hexDigits 8 c.toNat

/-- The quote that surrounds a text. -/
def quoteMark (text : List Char) : Char :=
  if text.contains '\'' && !text.contains '"' then '"' else '\''

/-- The text between quotes. -/
def quote (text : String) : String :=
  let mark := quoteMark text.toList
  String.ofList (mark :: text.toList.flatMap (quoteChar mark) ++ [mark])

/-- A list of texts, each between quotes, in brackets. -/
def quoteList (texts : List String) : String :=
  "[" ++ ", ".intercalate (texts.map quote) ++ "]"

end SourceLayers
