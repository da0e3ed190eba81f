/-
Whole numbers in text:

* `digitValue?`: the value of a decimal digit of any script;
* `parseInteger?`: a number with blanks around it, a sign, and single underscores between digits. It
  has at most `maxDigits` digits;
* `looksNegative`: texts that read as a negative number.
-/
import SourceLayers.Text.Blank
import SourceLayers.Text.Tables.Digit

namespace SourceLayers

/-- The value of a decimal digit. -/
def digitValue? (c : Char) : Option Nat :=
  (digitZeros.find? fun first => first ≤ c.toNat && c.toNat < first + 10).map fun first =>
    c.toNat - first

/-- Whether a character is a decimal digit. -/
def isDecimalDigit (c : Char) : Bool :=
  (digitValue? c).isSome

/-- Whether a character may stand around a number: a blank other than the four separators of
ASCII. -/
def isNumberBlank (c : Char) : Bool :=
  isBlank c && !(0x1C ≤ c.toNat && c.toNat ≤ 0x1F)

/-- The text without such blanks at its start and at its end. -/
def trimNumber (text : List Char) : List Char :=
  ((text.dropWhile isNumberBlank).reverse.dropWhile isNumberBlank).reverse

/-- The number of digits that a number may have, leading zeros included. -/
def maxDigits : Nat :=
  4300

/-- The number of a text of digits after those read so far. An underscore stands between two
digits. -/
def parseDigits? (value : Nat) : List Char → Option Nat
  | [] => some value
  | '_' :: c :: rest => do
    let digit ← digitValue? c
    parseDigits? (value * 10 + digit) rest
  | c :: rest => do
    let digit ← digitValue? c
    parseDigits? (value * 10 + digit) rest

/-- The number of a text of at least one digit and at most `maxDigits`. -/
def parseNatural? (text : List Char) : Option Nat :=
  match text with
  | [] => none
  | c :: rest =>
    if maxDigits < text.countP isDecimalDigit then none
    else do
      let digit ← digitValue? c
      parseDigits? digit rest

/-- The whole number of a text. -/
def parseInteger? (text : List Char) : Option Int :=
  match trimNumber text with
  | '-' :: digits => (parseNatural? digits).map fun n => -(n : Int)
  | '+' :: digits => (parseNatural? digits).map Int.ofNat
  | digits => (parseNatural? digits).map Int.ofNat

/-- Whether a text is a minus and digits, or a minus, digits if any, a point and digits. A line feed
at the very end is passed over. -/
def looksNegative (text : List Char) : Bool :=
  let text := if text.getLast? = some '\n' then text.dropLast else text
  match text with
  | '-' :: rest =>
    match rest.dropWhile isDecimalDigit with
    | [] => !rest.isEmpty
    | '.' :: places => !places.isEmpty && places.all isDecimalDigit
    | _ => false
  | _ => false

end SourceLayers
