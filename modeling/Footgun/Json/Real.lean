/-! # Binary floating point

A `Real` is a number of binary floating point with 53 significant bits, an infinity, or undefined.
`Real.ofDecimal` rounds a decimal number to the nearest one, ties to the even coefficient.
`Real.text` writes the decimal number with the fewest digits that rounds back. -/

namespace Footgun.Json

/-- A number of binary floating point. -/
inductive Real where
  /-- Plus or minus `coefficient * 2 ^ exponent`. -/
  | finite (negative : Bool) (coefficient : Nat) (exponent : Int)
  /-- Beyond all finite numbers. -/
  | infinite (negative : Bool)
  /-- No number at all. -/
  | undefined
  deriving DecidableEq, Repr

namespace Real

/-- A fraction of natural numbers multiplied by a power of a base, as numerator and denominator. -/
def scale (base : Nat) (exponent : Int) (fraction : Nat × Nat) : Nat × Nat :=
  if exponent < 0 then (fraction.1, fraction.2 * Nat.pow base exponent.natAbs)
  else (fraction.1 * Nat.pow base exponent.natAbs, fraction.2)

/-- The natural number nearest to a fraction, the even one of two. -/
def roundFraction (fraction : Nat × Nat) : Nat :=
  let quotient := fraction.1 / fraction.2
  let twice := 2 * (fraction.1 % fraction.2)
  if twice < fraction.2 || (twice == fraction.2 && quotient % 2 == 0) then quotient
  else quotient + 1

/-- The least exponent of two of a finite number. -/
def leastExponent : Int := -1074

/-- The greatest exponent of two of a finite number. -/
def greatestExponent : Int := 971

/-- The least natural number of more than 53 bits. -/
def coefficientEnd : Nat := 9007199254740992

/-- The exponent of two for which a positive fraction has a coefficient of 53 bits, if it is not
below the least one. -/
def exponentOf (fraction : Nat × Nat) : Int :=
  let guess : Int := (fraction.1.log2 : Int) - fraction.2.log2 - 53
  let scaled := scale 2 (-guess) fraction
  max leastExponent (if scaled.1 / scaled.2 < coefficientEnd then guess else guess + 1)

/-- The number nearest to a fraction. -/
def ofFraction (negative : Bool) (fraction : Nat × Nat) : Real :=
  if fraction.1 = 0 then finite negative 0 0
  else
    let exponent := exponentOf fraction
    let coefficient := roundFraction (scale 2 (-exponent) fraction)
    let (coefficient, exponent) :=
      if coefficient = coefficientEnd then (coefficientEnd / 2, exponent + 1)
      else (coefficient, exponent)
    if greatestExponent < exponent then infinite negative
    else if coefficient = 0 then finite negative 0 0
    else finite negative coefficient exponent

/-- The number of decimal digits of a natural number. -/
def digitCount (n : Nat) : Nat :=
  (Nat.toDigits 10 n).length

/-- The number nearest to `coefficient * 10 ^ exponent`. -/
def ofDecimal (negative : Bool) (coefficient : Nat) (exponent : Int) : Real :=
  let magnitude := exponent + digitCount coefficient
  if coefficient = 0 || magnitude < -330 then finite negative 0 0
  else if 310 < magnitude then infinite negative
  else ofFraction negative (scale 10 exponent (coefficient, 1))

/-! ## The shortest decimal text -/

/-- The distance of two fractions, over the product of their denominators. -/
def distance (first second : Nat × Nat) : Nat :=
  ((first.1 * second.2 : Int) - second.1 * first.2).natAbs

/-- The exponent `p` with `10 ^ (p - 1) ≤ fraction < 10 ^ p`, found upwards from a lower bound. -/
def decimalPoint (fraction : Nat × Nat) : Nat → Int → Int
  | 0, point => point
  | fuel + 1, point =>
    let bound := scale 10 point (1, 1)
    if fraction.1 * bound.2 < bound.1 * fraction.2 then point
    else decimalPoint fraction fuel (point + 1)

/-- The nearer of two neighbouring decimal coefficients, or the even one if both are as near. -/
def nearer (fraction : Nat × Nat) (exponent : Int) (low high : Nat) : Nat :=
  let below := distance (scale 10 exponent (low, 1)) fraction
  let above := distance (scale 10 exponent (high, 1)) fraction
  if below < above then low
  else if above < below then high
  else if low % 2 = 0 then low else high

/-- The decimal coefficient with `count` digits nearest to a fraction that rounds to the same
number. -/
def candidate? (number : Real) (fraction : Nat × Nat) (point : Int) (count : Nat) : Option Nat :=
  let exponent := point - count
  let scaled := scale 10 (-exponent) fraction
  let low := scaled.1 / scaled.2
  match [low, low + 1].filter fun digits => ofDecimal false digits exponent == number with
  | [first, second] => some (nearer fraction exponent first second)
  | first :: _ => some first
  | [] => none

/-- The fewest decimal digits that round to a positive number, and the place of the decimal point:
`(digits, point)` stands for zero, a point, the digits, times ten to the power `point`. -/
def shortest (coefficient : Nat) (exponent : Int) : List Char × Int :=
  let fraction := scale 2 exponent (coefficient, 1)
  let point := decimalPoint fraction 700 (-330)
  let found := (List.range 17).findSome? fun index =>
    (candidate? (finite false coefficient exponent) fraction point (index + 1)).map fun digits =>
      (Nat.toDigits 10 digits, point - (index + 1))
  match found with
  | some (digits, exponent) =>
    ((digits.reverse.dropWhile (· == '0')).reverse, exponent + digits.length)
  | none => ([], point)

/-- The text of an exponent: a sign and at least two digits. -/
def exponentText (exponent : Int) : List Char :=
  let digits := Nat.toDigits 10 exponent.natAbs
  (if exponent < 0 then '-' else '+') :: (if digits.length < 2 then '0' :: digits else digits)

/-- Digits with a decimal point: positional from 0.0001 up to below 10 to the power 16, and with an
exponent otherwise. -/
def layout (digits : List Char) (point : Int) : List Char :=
  if point ≤ -4 || 16 < point then
    let fraction := digits.drop 1
    digits.take 1 ++ (if fraction = [] then [] else '.' :: fraction) ++
      'e' :: exponentText (point - 1)
  else if point ≤ 0 then '0' :: '.' :: List.replicate point.natAbs '0' ++ digits
  else
    let count := point.toNat
    let whole := digits.take count ++ List.replicate (count - digits.length) '0'
    let fraction := digits.drop count
    whole ++ '.' :: (if fraction = [] then ['0'] else fraction)

/-- The text of a number. -/
def text : Real → List Char
  | undefined => "NaN".toList
  | infinite negative => (if negative then "-Infinity" else "Infinity").toList
  | finite negative coefficient exponent =>
    let shown :=
      if coefficient = 0 then "0.0".toList
      else
        let (digits, point) := shortest coefficient exponent
        layout digits point
    if negative then '-' :: shown else shown

end Real

end Footgun.Json
