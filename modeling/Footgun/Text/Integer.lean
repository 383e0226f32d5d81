import Footgun.Text.Blank
import Footgun.Text.Digit

/-! # Integers in text

`readInteger` reads a decimal integer: white space around it, at most one sign, and decimal digits
of any script with single underscores between them. A numeral of more than 4300 digits is
refused. -/

namespace Footgun.Text

/-- White space that may stand around a number: all of it but the four information separators. -/
def isPadding (c : Char) : Bool :=
  isBlank c && !(0x1C ≤ c.toNat && c.toNat ≤ 0x1F)

/-- The most digits that a numeral may have. -/
def maxDigits : Nat := 4300

/-- The digits of a numeral that has at least one, with single underscores between them. -/
def readDigits : List Char → Option (List Nat)
  | [] => none
  | [c] => (decimalValue? c).map ([·])
  | c :: '_' :: rest => do return (← decimalValue? c) :: (← readDigits rest)
  | c :: rest => do return (← decimalValue? c) :: (← readDigits rest)

/-- The number that a list of digits denotes, most significant digit first. -/
def ofDigits (digits : List Nat) : Nat :=
  digits.foldl (fun value digit => 10 * value + digit) 0

/-- The number that a numeral without a sign denotes. -/
def readNatural (text : List Char) : Option Nat := do
  let digits ← readDigits text
  if digits.length ≤ maxDigits then some (ofDigits digits) else none

/-- The integer that a text denotes. -/
def readInteger (text : String) : Option Int :=
  let inner := ((text.toList.dropWhile isPadding).reverse.dropWhile isPadding).reverse
  match inner with
  | '-' :: rest => (readNatural rest).map fun n => -(n : Int)
  | '+' :: rest => (readNatural rest).map fun n => (n : Int)
  | _ => (readNatural inner).map fun n => (n : Int)

end Footgun.Text
