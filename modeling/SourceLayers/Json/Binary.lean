/-
Binary fractions of double precision, the values that fractions are rounded to:

* `roundDivEven`: a quotient rounded to the nearest whole number, a half to the even one;
* `Binary`: a number `mantissa · 2 ^ exponent` of at most 53 bits;
* `Binary.nearest?`: the binary fraction nearest to a quotient. Quotients from about `2 ^ 1024` on
  have none;
* `Binary.shortest`: the decimal fraction with the fewest digits that lies nearest to a given binary
  one, and of those the closest;
* `Decimal.rounded?`: a decimal fraction by way of the binary one nearest to it;
* `Decimal.ratio`: the quotient of two counts to six places.
-/
import SourceLayers.Json.Decimal

namespace SourceLayers

/-- The quotient rounded to the nearest whole number; a half goes to the even one. -/
def roundDivEven (numerator denominator : Nat) : Nat :=
  let quotient := numerator / denominator
  let rest := numerator % denominator
  if 2 * rest < denominator then quotient
  else if denominator < 2 * rest then quotient + 1
  else if quotient % 2 = 0 then quotient
  else quotient + 1

/-- A binary fraction `mantissa · 2 ^ exponent`. -/
structure Binary where
  mantissa : Nat
  exponent : Int
  deriving DecidableEq, Repr

namespace Binary

/-- The number of bits of a mantissa. -/
def precision : Nat :=
  53

/-- The exponent of the smallest fractions. -/
def minExponent : Int :=
  -1074

/-- The exponent of the largest fractions. -/
def maxExponent : Int :=
  971

/-- The binary fraction zero. -/
def zero : Binary :=
  ⟨0, minExponent⟩

/-- The size of a binary fraction, over its `denominator`. -/
def numerator (value : Binary) : Nat :=
  value.mantissa <<< value.exponent.toNat

/-- The power of two under a binary fraction. -/
def denominator (value : Binary) : Nat :=
  1 <<< (-value.exponent).toNat

/-- The exponent at which a quotient of positive numbers has a mantissa of full precision, or the
smallest exponent if that is larger. -/
def exponentFor (numerator denominator : Nat) : Int :=
  -- one less than the exponent, or the exponent itself
  let low : Int := (numerator.log2 : Int) - denominator.log2 - precision
  let isLow := numerator <<< (-low).toNat < denominator <<< (low.toNat + precision)
  max minExponent (if isLow then low else low + 1)

/-- The binary fraction nearest to a quotient of positive numbers; of two, that with the even
mantissa. A quotient that is nearest to `2 ^ 1024` or more has none. -/
def nearest? (numerator denominator : Nat) : Option Binary :=
  let exponent := exponentFor numerator denominator
  let mantissa :=
    roundDivEven (numerator <<< (-exponent).toNat) (denominator <<< exponent.toNat)
  -- rounding may carry into one more bit
  let value : Binary :=
    if mantissa = 1 <<< precision then ⟨1 <<< (precision - 1), exponent + 1⟩
    else ⟨mantissa, exponent⟩
  if value.exponent ≤ maxExponent then some value else none

end Binary

/-- The binary fraction nearest to the size of a decimal one. Sizes from `10 ^ 311` on have none,
and those below `10 ^ -331` are nearest to zero; neither is looked at any closer. -/
def Decimal.toBinary? (value : Decimal) : Option Binary :=
  let size : Int := digitCount value.digits + value.exponent
  if value.digits = 0 ∨ size < -330 then some Binary.zero
  else if 311 < size then none
  else Binary.nearest? value.numerator value.denominator

namespace Binary

/-- The place of the point in a positive binary fraction, counted from its first decimal digit. -/
def point (value : Binary) : Int :=
  let low : Int := (Decimal.digitCount value.numerator : Int) - Decimal.digitCount value.denominator
  let isLow := value.numerator * Nat.pow 10 (-low).toNat < value.denominator * Nat.pow 10 low.toNat
  if isLow then low else low + 1

/-- The two decimal fractions of the given exponent around a binary one, the closer first; where
both are equally close, that with the even last digit is. -/
def neighbours (value : Binary) (exponent : Int) : List Decimal :=
  let numerator := value.numerator * Nat.pow 10 (-exponent).toNat
  let denominator := value.denominator * Nat.pow 10 exponent.toNat
  let below := numerator / denominator
  if roundDivEven numerator denominator = below then
    [{ digits := below, exponent }, { digits := below + 1, exponent }]
  else [{ digits := below + 1, exponent }, { digits := below, exponent }]

/-- A decimal fraction of `count` digits that reads back as the given binary one. -/
def withDigits? (value : Binary) (count : Nat) : Option Decimal :=
  (value.neighbours (value.point - count)).find? fun decimal => decimal.toBinary? = some value

/-- The shortest decimal fraction that reads back as the given binary one. Seventeen digits are
always enough. -/
def shortest (value : Binary) : Decimal :=
  if value.mantissa = 0 then { digits := 0, exponent := 0 }
  else
    ((List.range 17).findSome? fun i => value.withDigits? (i + 1)).getD
      { digits := value.numerator, exponent := 0 }

end Binary

/-- The shortest decimal fraction that has the same nearest binary fraction; one that is too large
for any has none. -/
def Decimal.rounded? (value : Decimal) : Option Decimal :=
  value.toBinary?.map fun binary => { binary.shortest with negative := value.negative }

/-- The quotient of two counts to six places, by way of the nearest binary fraction; zero where
there is nothing to divide. -/
def Decimal.ratio (numerator denominator : Nat) : Decimal :=
  let places (binary : Binary) : Nat :=
    roundDivEven (binary.numerator * 1000000) binary.denominator
  if numerator = 0 ∨ denominator = 0 then { digits := 0, exponent := -6 }
  else
    { digits := ((Binary.nearest? numerator denominator).map places).getD 0, exponent := -6 }

end SourceLayers
