/-
Blank characters and what is built on them:

* `isBlank`: the characters that separate words;
* `isBlankText`: texts of blanks only;
* `trimEnd`, `withoutBlanks`, `words`: a text without its trailing blanks, without any blank, and
  cut at runs of blanks.
-/
import SourceLayers.Text.CodeRanges

namespace SourceLayers

/-- The blank characters: the ASCII spaces and separators, the next-line mark, and the spaces and
line separators beyond ASCII. The zero-width characters are not among them. -/
def blankRanges : CodeRanges :=
  [(0x09, 0x0D), (0x1C, 0x20), (0x85, 0x85), (0xA0, 0xA0), (0x1680, 0x1680), (0x2000, 0x200A),
    (0x2028, 0x2029), (0x202F, 0x202F), (0x205F, 0x205F), (0x3000, 0x3000)]

/-- Whether a character is blank. -/
def isBlank (c : Char) : Bool :=
  blankRanges.contains c

/-- Whether a text has no character but blanks; the empty text has none. -/
def isBlankText (text : List Char) : Bool :=
  text.all isBlank

/-- The text without the blanks at its end. -/
def trimEnd (text : List Char) : List Char :=
  (text.reverse.dropWhile isBlank).reverse

/-- The text with every blank removed. -/
def withoutBlanks (text : List Char) : List Char :=
  text.filter fun c => !isBlank c

/-- The maximal runs of characters that are not blank, in order. -/
def words (text : List Char) : List (List Char) :=
  (text.splitBy fun a b => isBlank a == isBlank b).filter fun run => !isBlankText run

end SourceLayers
