/-
Decimal fractions and how they are written:

* `Decimal`: a number `± digits · 10 ^ exponent`;
* `Decimal.numerator`, `Decimal.denominator`: its size as a quotient of whole numbers;
* `Decimal.render`: its text. Numbers from `0.00001` up to `10 ^ 16` are written with a point and at
  least one digit after it, all others with an exponent, whose sign is always written.
-/

namespace SourceLayers

/-- A decimal fraction. -/
structure Decimal where
  negative : Bool := false
  digits : Nat
  exponent : Int
  deriving DecidableEq, Repr

namespace Decimal

/-- The number of digits that a whole number is written with. -/
def digitCount (n : Nat) : Nat :=
  (toString n).length

/-- The size of a decimal fraction, over its `denominator`. -/
def numerator (value : Decimal) : Nat :=
  value.digits * Nat.pow 10 value.exponent.toNat

/-- The power of ten under a decimal fraction. -/
def denominator (value : Decimal) : Nat :=
  Nat.pow 10 (-value.exponent).toNat

/-- Moves zeros from the end of the digits into the exponent, at most `fuel` of them. -/
def dropZeros : (fuel : Nat) → (digits : Nat) → (exponent : Int) → Nat × Int
  | 0, digits, exponent => (digits, exponent)
  | fuel + 1, digits, exponent =>
    if digits % 10 = 0 then dropZeros fuel (digits / 10) (exponent + 1) else (digits, exponent)

/-- Digits with a point, or with an exponent, whichever their size asks for. `point` is the place of
the point counted from the first digit. -/
def layOut (digits : List Char) (point : Int) : List Char :=
  let count : Int := digits.length
  if count ≤ point ∧ point ≤ 16 then
    digits ++ List.replicate (point - count).toNat '0' ++ ['.', '0']
  else if 0 < point ∧ point ≤ 16 then
    digits.take point.toNat ++ '.' :: digits.drop point.toNat
  else if -5 < point ∧ point ≤ 0 then
    '0' :: '.' :: List.replicate (-point).toNat '0' ++ digits
  else
    let mantissa :=
      match digits with
      | [] => []
      | [d] => [d]
      | d :: rest => d :: '.' :: rest
    let sign := if 1 ≤ point then '+' else '-'
    mantissa ++ 'e' :: sign :: (toString (point - 1).natAbs).toList

/-- The text of a decimal fraction, without zeros at the end of its digits. -/
def render (value : Decimal) : List Char :=
  let sign := if value.negative then ['-'] else []
  if value.digits = 0 then sign ++ ['0', '.', '0']
  else
    let (digits, exponent) := dropZeros (digitCount value.digits) value.digits value.exponent
    let text := (toString digits).toList
    sign ++ layOut text (text.length + exponent)

end Decimal

end SourceLayers
