/-
Reading JSON text:

* `Json.parse?`: the value of a text, which must hold one value and blanks around it;
* `Json.parseOctets?`: the same for octets, which must be UTF-8;
* `Json.load?`: the same as files are loaded, with numbers of 64 bits and limited nesting.

The reader is strict: no comments, no commas after the last item, no leading zeros, no controls in
texts, and no half of a surrogate pair. A field that occurs twice has its last value. Whole numbers
have no bounds; fractions are rounded to double precision, and those beyond its range are refused.
-/
import SourceLayers.Json.Basic
import SourceLayers.Text.Utf8

namespace SourceLayers.Json

/-- The text after its leading blanks. -/
def skipBlanks (text : List Char) : List Char :=
  text.dropWhile fun c => c = ' ' || c = '\t' || c = '\n' || c = '\r'

/-! ### Texts -/

/-- The value of a hexadecimal digit. -/
def hexValue? (c : Char) : Option Nat :=
  if '0' ≤ c ∧ c ≤ '9' then some (c.toNat - '0'.toNat)
  else if 'a' ≤ c ∧ c ≤ 'f' then some (c.toNat - 'a'.toNat + 10)
  else if 'A' ≤ c ∧ c ≤ 'F' then some (c.toNat - 'A'.toNat + 10)
  else none

/-- The value of four hexadecimal digits. -/
def hexUnit? (a b c d : Char) : Option Nat := do
  let a ← hexValue? a
  let b ← hexValue? b
  let c ← hexValue? c
  let d ← hexValue? d
  return ((a * 16 + b) * 16 + c) * 16 + d

/-- The character that a one-letter escape stands for. -/
def escaped? : Char → Option Char
  | '"' => some '"'
  | '\\' => some '\\'
  | '/' => some '/'
  | 'b' => some '\x08'
  | 'f' => some '\x0c'
  | 'n' => some '\n'
  | 'r' => some '\r'
  | 't' => some '\t'
  | _ => none

/-- The characters of a text up to its closing quote, and what follows. -/
def parseChars : List Char → Option (List Char × List Char)
  | [] => none
  | '"' :: rest => some ([], rest)
  | '\\' :: 'u' :: a :: b :: c :: d :: rest =>
    match hexUnit? a b c d with
    | none => none
    | some unit =>
      if 0xD800 ≤ unit ∧ unit < 0xDC00 then
        match rest with
        | '\\' :: 'u' :: e :: f :: g :: h :: rest =>
          match hexUnit? e f g h with
          | none => none
          | some low =>
            if 0xDC00 ≤ low ∧ low < 0xE000 then
              (parseChars rest).map fun (text, rest) =>
                (Char.ofNat (0x10000 + (unit - 0xD800) * 1024 + (low - 0xDC00)) :: text, rest)
            else none
        | _ => none
      else if 0xDC00 ≤ unit ∧ unit < 0xE000 then none
      else (parseChars rest).map fun (text, rest) => (Char.ofNat unit :: text, rest)
  | '\\' :: c :: rest =>
    match escaped? c with
    | none => none
    | some c => (parseChars rest).map fun (text, rest) => (c :: text, rest)
  | c :: rest =>
    if c.toNat < 32 then none
    else (parseChars rest).map fun (text, rest) => (c :: text, rest)

/-! ### Numbers -/

/-- The number that a list of digits writes. -/
def digitsValue (digits : List Char) : Nat :=
  digits.foldl (fun value c => value * 10 + (c.toNat - '0'.toNat)) 0

/-- The digits at the start of a text, and what follows. -/
def spanDigits (text : List Char) : List Char × List Char :=
  (text.takeWhile Char.isDigit, text.dropWhile Char.isDigit)

/-- Digits before the point: a zero alone, or digits that begin with another one. -/
def parseWhole? (text : List Char) : Option (List Char × List Char) :=
  match text with
  | '0' :: rest => some (['0'], rest)
  | c :: rest => if c.isDigit then some (spanDigits (c :: rest)) else none
  | [] => none

/-- The point and the digits after it, at least one of them; no point is no digits. -/
def parseFraction? (text : List Char) : Option (Option (List Char) × List Char) :=
  match text with
  | '.' :: rest =>
    match spanDigits rest with
    | ([], _) => none
    | (digits, rest) => some (some digits, rest)
  | _ => some (none, text)

/-- The exponent: its mark, a sign, and at least one digit. -/
def parseExponent? (text : List Char) : Option (Option Int × List Char) :=
  let read (sign : Int) (rest : List Char) : Option (Option Int × List Char) :=
    match spanDigits rest with
    | ([], _) => none
    | (digits, rest) => some (some (sign * digitsValue digits), rest)
  match text with
  | 'e' :: '+' :: rest | 'E' :: '+' :: rest => read 1 rest
  | 'e' :: '-' :: rest | 'E' :: '-' :: rest => read (-1) rest
  | 'e' :: rest | 'E' :: rest => read 1 rest
  | _ => some (none, text)

/-- A number after its sign. Without a point and an exponent it is whole. -/
def parseUnsigned? (negative : Bool) (text : List Char) : Option (Json × List Char) := do
  let (whole, rest) ← parseWhole? text
  let (fraction, rest) ← parseFraction? rest
  let (exponent, rest) ← parseExponent? rest
  if fraction.isNone ∧ exponent.isNone then
    let value : Int := digitsValue whole
    return (.int (if negative then -value else value), rest)
  else
    let places := fraction.getD []
    let value ← Decimal.rounded?
      { negative
        digits := digitsValue (whole ++ places)
        exponent := exponent.getD 0 - places.length }
    return (.decimal value, rest)

/-- A number. -/
def parseNumber? : List Char → Option (Json × List Char)
  | '-' :: rest => parseUnsigned? true rest
  | text => parseUnsigned? false text

/-! ### Values -/

mutual
/-- A value at the start of a text, after blanks, and what follows it. `fuel` bounds the nesting and
the number of items together. -/
def parseValue : (fuel : Nat) → List Char → Option (Json × List Char)
  | 0, _ => none
  | fuel + 1, text =>
    match skipBlanks text with
    | 'n' :: 'u' :: 'l' :: 'l' :: rest => some (.null, rest)
    | 't' :: 'r' :: 'u' :: 'e' :: rest => some (.bool true, rest)
    | 'f' :: 'a' :: 'l' :: 's' :: 'e' :: rest => some (.bool false, rest)
    | '"' :: rest => (parseChars rest).map fun (text, rest) => (.str (String.ofList text), rest)
    | '[' :: rest =>
      match skipBlanks rest with
      | ']' :: rest => some (.arr [], rest)
      | rest => (parseItems fuel rest).map fun (items, rest) => (.arr items, rest)
    | '\x7b' :: rest =>
      match skipBlanks rest with
      | '\x7d' :: rest => some (.obj [], rest)
      | rest => (parseFields fuel [] rest).map fun (fields, rest) => (.obj fields, rest)
    | text => parseNumber? text

/-- The items of a list up to its end, and what follows. -/
def parseItems : (fuel : Nat) → List Char → Option (List Json × List Char)
  | 0, _ => none
  | fuel + 1, text =>
    match parseValue fuel text with
    | none => none
    | some (item, rest) =>
      match skipBlanks rest with
      | ']' :: rest => some ([item], rest)
      | ',' :: rest => (parseItems fuel rest).map fun (items, rest) => (item :: items, rest)
      | _ => none

/-- The fields of an object up to its end, put to those already read, and what follows. -/
def parseFields : (fuel : Nat) → List (String × Json) → List Char →
    Option (List (String × Json) × List Char)
  | 0, _, _ => none
  | fuel + 1, fields, text =>
    match skipBlanks text with
    | '"' :: rest =>
      match parseChars rest with
      | none => none
      | some (name, rest) =>
        match skipBlanks rest with
        | ':' :: rest =>
          match parseValue fuel rest with
          | none => none
          | some (value, rest) =>
            let fields := insertField fields (String.ofList name) value
            match skipBlanks rest with
            | '\x7d' :: rest => some (fields, rest)
            | ',' :: rest => parseFields fuel fields rest
            | _ => none
        | _ => none
    | _ => none
end

/-- The value of a text. Every level of nesting and every item takes a character of its own, so
twice the length of the text is fuel enough. -/
def parse? (text : List Char) : Option Json :=
  match parseValue (2 * text.length + 2) text with
  | some (value, rest) => if (skipBlanks rest).isEmpty then some value else none
  | none => none

/-- The value of a text in UTF-8. -/
def parseOctets? (octets : List UInt8) : Option Json :=
  match decodeUtf8 octets with
  | .ok text => parse? text
  | .error _ => none

/-- The value of a text in UTF-8 that must not be nested too deep. Whole numbers that do not fit in
64 bits are read as fractions. -/
def load? (octets : List UInt8) : Option Json :=
  match (parseOctets? octets).bind widen64? with
  | some value => if value.depth ≤ maxReadDepth then some value else none
  | none => none

end SourceLayers.Json
