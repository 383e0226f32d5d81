import Footgun.Json.Basic
import Footgun.Text.Integer

/-! # Reading JSON

`Json.read` reads a text as one value of the data format. Besides the standard grammar it knows
`NaN`, `Infinity` and `-Infinity`. The last of several fields with one name counts, at the place of
the first. An integer of more than 4300 digits is refused on its own account, and so is a value that
is nested too deeply. -/

namespace Footgun.Json

/-- Why a text cannot be read. -/
inductive ReadError where
  /-- It does not follow the grammar. -/
  | malformed
  /-- It holds an integer with too many digits. -/
  | hugeInteger
  /-- It holds lists and objects in each other at too many levels. -/
  | tooDeep
  deriving DecidableEq, Repr

/-- Whether a character may stand between the parts of a value. -/
def isGap (c : Char) : Bool :=
  c == ' ' || c == '\t' || c == '\n' || c == '\r'

/-- A text from the first character on that is no gap. -/
def skipGaps (text : List Char) : List Char :=
  text.dropWhile isGap

/-! ## Strings -/

/-- The value of a hexadecimal digit. -/
def hexValue? (c : Char) : Option Nat :=
  if '0' ≤ c && c ≤ '9' then some (c.toNat - 48)
  else if 'a' ≤ c && c ≤ 'f' then some (c.toNat - 87)
  else if 'A' ≤ c && c ≤ 'F' then some (c.toNat - 55)
  else none

/-- The unit of 16 bits that four hexadecimal digits denote. -/
def unit? (a b c d : Char) : Option Nat := do
  return (((← hexValue? a) * 16 + (← hexValue? b)) * 16 + (← hexValue? c)) * 16 + (← hexValue? d)

/-- What a letter after a backslash stands for. -/
def escaped? (c : Char) : Option Char :=
  if c = '"' || c = '\\' || c = '/' then some c
  else if c = 'b' then some '\x08'
  else if c = 'f' then some '\x0c'
  else if c = 'n' then some '\n'
  else if c = 'r' then some '\r'
  else if c = 't' then some '\t'
  else none

/-- The code points and units of 16 bits of a string up to its closing quote, and what follows
it. -/
def readUnits : List Char → Option (List Nat × List Char)
  | [] => none
  | '"' :: rest => some ([], rest)
  | '\\' :: 'u' :: a :: b :: c :: d :: rest => do
    let unit ← unit? a b c d
    let (units, rest) ← readUnits rest
    return (unit :: units, rest)
  | '\\' :: c :: rest => do
    let c ← escaped? c
    let (units, rest) ← readUnits rest
    return (c.toNat :: units, rest)
  | c :: rest =>
    if c.toNat < 0x20 || c = '\\' then none
    else do
      let (units, rest) ← readUnits rest
      return (c.toNat :: units, rest)

/-- Whether a unit is the first half of a character beyond 16 bits. -/
def isHighHalf (unit : Nat) : Bool :=
  0xD800 ≤ unit && unit < 0xDC00

/-- Whether a unit is the second half of a character beyond 16 bits. -/
def isLowHalf (unit : Nat) : Bool :=
  0xDC00 ≤ unit && unit < 0xE000

/-- The character of a code point, and a replacement for half a character. -/
def charOf (unit : Nat) : Char :=
  if isHighHalf unit || isLowHalf unit then '�' else Char.ofNat unit

/-- The characters of code points and units, two halves joined to one character. -/
def joinUnits : List Nat → List Char
  | [] => []
  | [unit] => [charOf unit]
  | first :: second :: rest =>
    if isHighHalf first && isLowHalf second then
      Char.ofNat (0x10000 + (first - 0xD800) * 0x400 + (second - 0xDC00)) :: joinUnits rest
    else charOf first :: joinUnits (second :: rest)

/-- The text of a string after its opening quote, and what follows it. -/
def readString (text : List Char) : Except ReadError (String × List Char) :=
  match readUnits text with
  | some (units, rest) => .ok (String.ofList (joinUnits units), rest)
  | none => .error .malformed

/-! ## Numbers -/

/-- The value of a list of digits, most significant first. -/
def digitsValue (digits : List Char) : Nat :=
  digits.foldl (fun value c => 10 * value + (c.toNat - 48)) 0

/-- A run of digits, and what follows it. -/
def readRun (text : List Char) : List Char × List Char :=
  (text.takeWhile Char.isDigit, text.dropWhile Char.isDigit)

/-- The digits of an integer, zero alone if it starts with zero, and what follows them. -/
def readWhole : List Char → Option (List Char × List Char)
  | '0' :: rest => some (['0'], rest)
  | text =>
    match readRun text with
    | ([], _) => none
    | found => some found

/-- The digits of a fraction, if there is one, and what follows them. -/
def readFraction : List Char → List Char × List Char
  | '.' :: rest =>
    match readRun rest with
    | ([], _) => ([], '.' :: rest)
    | found => found
  | text => ([], text)

/-- The value of an exponent, if there is one, and what follows it. -/
def readExponent (text : List Char) : Option Int × List Char :=
  match text with
  | c :: rest =>
    if c = 'e' || c = 'E' then
      let (negative, digits) : Bool × List Char :=
        match rest with
        | '-' :: digits => (true, digits)
        | '+' :: digits => (false, digits)
        | _ => (false, rest)
      match readRun digits with
      | ([], _) => (none, text)
      | (run, rest) =>
        let value : Int := digitsValue run
        (some (if negative then -value else value), rest)
    else (none, text)
  | [] => (none, text)

/-- A number without its sign, and what follows it. -/
def readNumber (negative : Bool) (text : List Char) : Except ReadError (Json × List Char) :=
  match readWhole text with
  | none => .error .malformed
  | some (whole, rest) =>
    let (fraction, rest) := readFraction rest
    let (exponent, rest) := readExponent rest
    if fraction = [] && exponent = none then
      if Text.maxDigits < whole.length then .error .hugeInteger
      else
        let value : Int := digitsValue whole
        .ok (int (if negative then -value else value), rest)
    else
      .ok (real (.ofDecimal negative (digitsValue (whole ++ fraction))
        (exponent.getD 0 - fraction.length)), rest)

/-! ## Values -/

/-- A value that is no list and no object, and what follows it. -/
def readScalar : List Char → Except ReadError (Json × List Char)
  | 'n' :: 'u' :: 'l' :: 'l' :: rest => .ok (null, rest)
  | 't' :: 'r' :: 'u' :: 'e' :: rest => .ok (bool true, rest)
  | 'f' :: 'a' :: 'l' :: 's' :: 'e' :: rest => .ok (bool false, rest)
  | 'N' :: 'a' :: 'N' :: rest => .ok (real .undefined, rest)
  | 'I' :: 'n' :: 'f' :: 'i' :: 'n' :: 'i' :: 't' :: 'y' :: rest =>
      .ok (real (.infinite false), rest)
  | '-' :: 'I' :: 'n' :: 'f' :: 'i' :: 'n' :: 'i' :: 't' :: 'y' :: rest =>
    .ok (real (.infinite true), rest)
  | '-' :: rest => readNumber true rest
  | text => readNumber false text

mutual

/-- A value, and what follows it. The fuel bounds the number of nested steps, and `levels` the
number of lists and objects in each other. -/
def readValue : Nat → Nat → List Char → Except ReadError (Json × List Char)
  | 0, _, _ => .error .malformed
  | fuel + 1, levels, text =>
    match text, levels with
    | '"' :: rest, _ => do
      let (value, rest) ← readString rest
      return (str value, rest)
    | '[' :: _, 0 => .error .tooDeep
    | '[' :: rest, levels + 1 =>
      match skipGaps rest with
      | ']' :: rest => .ok (arr [], rest)
      | rest => do
        let (items, rest) ← readItems fuel levels rest
        return (arr items, rest)
    | '\x7b' :: _, 0 => .error .tooDeep
    | '\x7b' :: rest, levels + 1 =>
      match skipGaps rest with
      | '\x7d' :: rest => .ok (obj [], rest)
      | rest => do
        let (fields, rest) ← readFields fuel levels [] rest
        return (obj fields, rest)
    | text, _ => readScalar text

/-- The items of a list up to its closing bracket, and what follows it. -/
def readItems : Nat → Nat → List Char → Except ReadError (List Json × List Char)
  | 0, _, _ => .error .malformed
  | fuel + 1, levels, text => do
    let (item, rest) ← readValue fuel levels text
    match skipGaps rest with
    | ',' :: rest =>
      let (items, rest) ← readItems fuel levels (skipGaps rest)
      return (item :: items, rest)
    | ']' :: rest => return ([item], rest)
    | _ => .error .malformed

/-- The fields of an object up to its closing bracket, put after those already read, and what
follows it. -/
def readFields : Nat → Nat → List (String × Json) → List Char →
    Except ReadError (List (String × Json) × List Char)
  | 0, _, _, _ => .error .malformed
  | fuel + 1, levels, fields, text =>
    match text with
    | '"' :: rest => do
      let (name, rest) ← readString rest
      match skipGaps rest with
      | ':' :: rest =>
        let (value, rest) ← readValue fuel levels (skipGaps rest)
        match skipGaps rest with
        | ',' :: rest => readFields fuel levels (put name value fields) (skipGaps rest)
        | '\x7d' :: rest => return (put name value fields, rest)
        | _ => .error .malformed
      | _ => .error .malformed
    | _ => .error .malformed

end

/-- How many lists and objects may stand in each other. -/
def maxLevels : Nat := 985

/-- The value that a text denotes. -/
def read (text : String) : Except ReadError Json := do
  let (value, rest) ← readValue (2 * text.toList.length + 2) maxLevels (skipGaps text.toList)
  if (skipGaps rest).isEmpty then return value else .error .malformed

end Footgun.Json
