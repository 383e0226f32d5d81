import Footgun.Json.Reader
import Footgun.Json.Writer
import Mathlib.Algebra.Group.Nat.Defs
import Mathlib.Data.List.TakeWhile

/-! # Strings and integers in JSON

What is written for a string or an integer is read back as the same string or integer, whatever
follows it. A character beyond 16 bits is written as two halves, which are joined again. Main
definitions:

* `Json.unitsOf` — the units of 16 bits that a character is read as;
* `Json.EndsNumber` — a text that does not go on with a number.

The main statements are `Json.readString_escaped` and `Json.readScalar_writeInteger`. -/

namespace Footgun.Json

/-! ## Characters -/

/-- The code point of a character, or its two halves of 16 bits. -/
def unitsOf (c : Char) : List Nat :=
  if c.toNat < 0x10000 then [c.toNat]
  else [0xD800 + (c.toNat - 0x10000) / 0x400, 0xDC00 + (c.toNat - 0x10000) % 0x400]

/-- A character is no surrogate. -/
theorem toNat_lt_or_le (c : Char) : c.toNat < 0xD800 ∨ 0xE000 ≤ c.toNat ∧ c.toNat < 0x110000 := by
  have valid : c.toNat.isValidChar := c.valid
  unfold Nat.isValidChar at valid
  omega

/-- The units `unitsOf c` are joined to `c`, whatever follows them. -/
theorem joinUnits_unitsOf_append (c : Char) (units : List Nat) :
    joinUnits (unitsOf c ++ units) = c :: joinUnits units := by
  have valid := toNat_lt_or_le c
  unfold unitsOf
  by_cases small : c.toNat < 0x10000
  · have notHigh : isHighHalf c.toNat = false := by simp [isHighHalf]; omega
    have notLow : isLowHalf c.toNat = false := by simp [isLowHalf]; omega
    have whole : charOf c.toNat = c := by
      rw [charOf, notHigh, notLow]
      exact Char.ofNat_toNat c
    rw [if_pos small, List.singleton_append]
    cases units with
    | nil => simp [joinUnits, whole]
    | cons second rest => simp [joinUnits, notHigh, whole]
  · rw [if_neg small]
    -- The halves hold the upper and the lower ten bits of what the code point has beyond 16 bits.
    have split : 0x400 * ((c.toNat - 0x10000) / 0x400) + (c.toNat - 0x10000) % 0x400 =
        c.toNat - 0x10000 := Nat.div_add_mod _ _
    have lower : (c.toNat - 0x10000) % 0x400 < 0x400 := Nat.mod_lt _ (by decide)
    have isHigh : isHighHalf (0xD800 + (c.toNat - 0x10000) / 0x400) = true := by
      simp [isHighHalf]; omega
    have isLow : isLowHalf (0xDC00 + (c.toNat - 0x10000) % 0x400) = true := by
      simp [isLowHalf]; omega
    have joined : 0x10000 + (0xD800 + (c.toNat - 0x10000) / 0x400 - 0xD800) * 0x400 +
        (0xDC00 + (c.toNat - 0x10000) % 0x400 - 0xDC00) = c.toNat := by omega
    simp only [List.cons_append, List.nil_append, joinUnits, isHigh, isLow, Bool.and_self, if_true,
      joined, Char.ofNat_toNat]

/-! ## Escapes -/

/-- The value of `hexDigit n` is `n`. -/
theorem hexValue?_hexDigit : ∀ n < 16, hexValue? (Text.hexDigit n) = some n := by decide

/-- The escape `unitEscape unit` is read as `unit`. -/
theorem readUnits_unitEscape {unit : Nat} (small : unit < 0x10000) (rest : List Char) :
    readUnits (unitEscape unit ++ rest) =
      (readUnits rest).map fun read => (unit :: read.1, read.2) := by
  have first := hexValue?_hexDigit (unit / 16 / 16 / 16 % 16) (Nat.mod_lt _ (by decide))
  have second := hexValue?_hexDigit (unit / 16 / 16 % 16) (Nat.mod_lt _ (by decide))
  have third := hexValue?_hexDigit (unit / 16 % 16) (Nat.mod_lt _ (by decide))
  have fourth := hexValue?_hexDigit (unit % 16) (Nat.mod_lt _ (by decide))
  have value : ((unit / 16 / 16 / 16 % 16 * 16 + unit / 16 / 16 % 16) * 16 + unit / 16 % 16) * 16 +
      unit % 16 = unit := by omega
  simp only [unitEscape, Text.hexDigits, List.nil_append, List.cons_append, readUnits, unit?, first,
    second, third, fourth, bind, Option.bind, pure, value]
  cases readUnits rest <;> rfl

/-- A letter behind a backslash is read as the character that `escaped?` knows for it. -/
theorem readUnits_letter {letter c : Char} (known : escaped? letter = some c)
    (small : c.toNat < 0x10000) (rest : List Char) :
    readUnits ('\\' :: letter :: rest) =
      (readUnits rest).map fun read => (unitsOf c ++ read.1, read.2) := by
  have notUnit : letter ≠ 'u' := by
    rintro rfl
    have nothing : escaped? 'u' = none := by decide
    rw [nothing] at known
    cases known
  rw [readUnits.eq_4 _ _ (fun _ _ _ _ _ same _ => notUnit same), known, unitsOf, if_pos small]
  cases readUnits rest <;> rfl

/-- What `escapeChar c` writes is read as `unitsOf c`. -/
theorem readUnits_escapeChar (c : Char) (rest : List Char) :
    readUnits (escapeChar c ++ rest) =
      (readUnits rest).map fun read => (unitsOf c ++ read.1, read.2) := by
  unfold escapeChar
  -- The branches of `escapeChar`: seven letters, then what is shown as it is, then one or two
  -- units.
  by_cases quote : c = '"'
  · subst quote
    exact readUnits_letter (by decide) (by decide) rest
  by_cases backslash : c = '\\'
  · subst backslash
    exact readUnits_letter (by decide) (by decide) rest
  by_cases newline : c = '\n'
  · subst newline
    exact readUnits_letter (by decide) (by decide) rest
  by_cases carriageReturn : c = '\r'
  · subst carriageReturn
    exact readUnits_letter (by decide) (by decide) rest
  by_cases tab : c = '\t'
  · subst tab
    exact readUnits_letter (by decide) (by decide) rest
  by_cases backspace : c = '\x08'
  · subst backspace
    exact readUnits_letter (by decide) (by decide) rest
  by_cases formFeed : c = '\x0c'
  · subst formFeed
    exact readUnits_letter (by decide) (by decide) rest
  simp only [quote, backslash, newline, carriageReturn, tab, backspace, formFeed, if_false]
  by_cases shown : (0x20 ≤ c.toNat && c.toNat ≤ 0x7E) = true
  · have plain : 0x20 ≤ c.toNat ∧ c.toNat ≤ 0x7E := by simpa using shown
    have small : c.toNat < 0x10000 := by omega
    have notControl : ¬ c.toNat < 0x20 := by omega
    rw [if_pos shown]
    cases found : readUnits rest <;>
      simp [readUnits, backslash, notControl, found, unitsOf, small]
  · rw [if_neg shown]
    by_cases small : c.toNat < 0x10000
    · rw [if_pos small, readUnits_unitEscape small]
      simp [unitsOf, small]
    · -- Above 0xFFFF, the two halves of a pair are units again.
      have valid := toNat_lt_or_le c
      have upper : 0xD800 + (c.toNat - 0x10000) / 0x400 < 0x10000 := by omega
      have lower : 0xDC00 + (c.toNat - 0x10000) % 0x400 < 0x10000 := by omega
      rw [if_neg small, List.append_assoc, readUnits_unitEscape upper, readUnits_unitEscape lower]
      simp [unitsOf, small, Function.comp_def]

/-! ## Strings -/

/-- The characters between the quotes are read as their units, up to the closing quote. -/
theorem readUnits_flatMap_escapeChar (letters rest : List Char) :
    readUnits (letters.flatMap escapeChar ++ '"' :: rest) =
      some (letters.flatMap unitsOf, rest) := by
  induction letters with
  | nil => simp [readUnits]
  | cons c letters ih =>
      rw [List.flatMap_cons, List.flatMap_cons, List.append_assoc, readUnits_escapeChar, ih]
      rfl

/-- The units of `letters` are joined to `letters`. -/
theorem joinUnits_flatMap_unitsOf (letters : List Char) :
    joinUnits (letters.flatMap unitsOf) = letters := by
  induction letters with
  | nil => rfl
  | cons c letters ih => rw [List.flatMap_cons, joinUnits_unitsOf_append, ih]

/-- A string is read back by `readString` from what is written after its opening quote. -/
theorem readString_escaped (text : String) (rest : List Char) :
    readString (text.toList.flatMap escapeChar ++ '"' :: rest) = .ok (text, rest) := by
  rw [readString, readUnits_flatMap_escapeChar]
  simp [joinUnits_flatMap_unitsOf]

/-! ## Integers -/

/-- The text `rest` does not go on with digits, a fraction or an exponent. -/
def EndsNumber (rest : List Char) : Prop :=
  ∀ c ∈ rest.head?, c.isDigit = false ∧ c ≠ '.' ∧ c ≠ 'e' ∧ c ≠ 'E'

/-- Digits are taken by `readRun` up to a text that has `EndsNumber`. -/
theorem readRun_append {digits rest : List Char} (all : ∀ c ∈ digits, c.isDigit)
    (ends : EndsNumber rest) : readRun (digits ++ rest) = (digits, rest) := by
  rw [readRun, List.takeWhile_append_of_pos all, List.dropWhile_append_of_pos all]
  cases rest with
  | nil => simp
  | cons c rest =>
      have stops := (ends c rfl).1
      rw [List.takeWhile_cons_of_neg (by simp [stops]),
        List.dropWhile_cons_of_neg (by simp [stops]), List.append_nil]

/-- The digits of a number are at least one. -/
theorem exists_cons_toDigits (n : Nat) :
    ∃ c others, Nat.toDigits 10 n = c :: others ∧ c.isDigit := by
  obtain ⟨c, others, digits⟩ := List.exists_cons_of_ne_nil (Nat.toDigits_ne_nil (n := n) (b := 10))
  refine ⟨c, others, digits,
    Nat.isDigit_of_mem_toDigits (b := 10) (n := n) (by decide) (by decide) ?_⟩
  rw [digits]
  exact List.mem_cons_self

/-- Only zero is written with a zero in front. -/
theorem head?_toDigits_of_pos (n : Nat) (positive : 0 < n) :
    (Nat.toDigits 10 n).head? ≠ some '0' := by
  induction n using Nat.strongRecOn with
  | ind n ih =>
      by_cases small : n < 10
      · rw [Nat.toDigits_of_lt_base small]
        have digits : ∀ m < 10, 0 < m → [Nat.digitChar m].head? ≠ some '0' := by decide
        exact digits n small positive
      · rw [Nat.toDigits_of_base_le (by decide) (by omega), List.head?_append]
        have above := ih (n / 10) (by omega) (by omega)
        cases front : (Nat.toDigits 10 (n / 10)).head? with
        | none => exact absurd (List.head?_eq_none_iff.mp front) Nat.toDigits_ne_nil
        | some c =>
            rw [front] at above
            exact above

/-- The digits of a number are taken by `readWhole` as a whole. -/
theorem readWhole_toDigits (n : Nat) {rest : List Char} (ends : EndsNumber rest) :
    readWhole (Nat.toDigits 10 n ++ rest) = some (Nat.toDigits 10 n, rest) := by
  by_cases zero : n = 0
  · subst zero
    rfl
  · have all : ∀ c ∈ Nat.toDigits 10 n, c.isDigit :=
      fun c member => Nat.isDigit_of_mem_toDigits (by decide) (by decide) member
    have front := head?_toDigits_of_pos n (Nat.pos_of_ne_zero zero)
    have run := readRun_append all ends
    cases digits : Nat.toDigits 10 n with
    | nil => exact absurd digits Nat.toDigits_ne_nil
    | cons c others =>
        rw [digits] at front run
        -- A zero in front would be the whole number.
        have notZero : c ≠ '0' := fun same => front (by rw [same]; rfl)
        rw [readWhole.eq_def]
        simp only [List.cons_append] at run ⊢
        split
        · rename_i same
          exact absurd (List.cons.inj same).1 notZero
        · rw [run]

/-- The value of the digits of `n` is `n`. -/
theorem digitsValue_toDigits (n : Nat) : digitsValue (Nat.toDigits 10 n) = n :=
  Nat.ofDigitChars_toDigits (by decide) (by decide)

/-- At most `Text.maxDigits` digits in front of a text that has `EndsNumber` are read by
`readNumber`. -/
theorem readNumber_toDigits (negative : Bool) {n : Nat} (short : n < 10 ^ Text.maxDigits)
    {rest : List Char} (ends : EndsNumber rest) :
    readNumber negative (Nat.toDigits 10 n ++ rest) =
      .ok (int (if negative then -(n : Int) else n), rest) := by
  -- What follows starts neither a fraction nor an exponent.
  have noFraction : readFraction rest = ([], rest) := by
    cases rest with
    | nil => rfl
    | cons c rest =>
        rw [readFraction.eq_def]
        split
        · rename_i same
          exact absurd (List.cons.inj same).1 (ends c rfl).2.1
        · rfl
  have noExponent : readExponent rest = (none, rest) := by
    cases rest with
    | nil => rfl
    | cons c rest =>
        obtain ⟨_, _, small, capital⟩ := ends c rfl
        simp [readExponent, small, capital]
  have fits : ¬ Text.maxDigits < (Nat.toDigits 10 n).length := by
    have le := (Nat.length_toDigits_le_iff (by decide) (by decide)).mpr short
    omega
  rw [readNumber, readWhole_toDigits n ends]
  simp only [noFraction, noExponent, decide_true, Bool.and_self, if_true, if_neg fits,
    digitsValue_toDigits]

/-- A natural number is written in its digits. -/
theorem writeInteger_ofNat (n : Nat) : writeInteger (n : Int) = Nat.toDigits 10 n := by
  show (n.repr).toList = _
  rw [Nat.repr_eq_ofList_toDigits, String.toList_ofList]

/-- A negative number is written as its sign and the digits of its absolute value. -/
theorem writeInteger_negSucc (n : Nat) :
    writeInteger (.negSucc n) = '-' :: Nat.toDigits 10 (n + 1) := by
  show ("-" ++ (n + 1).repr).toList = _
  rw [String.toList_append, Nat.repr_eq_ofList_toDigits,
    String.toList_ofList (l := Nat.toDigits 10 (n + 1))]
  rfl

/-- A digit starts a number. -/
theorem readScalar_digit {c : Char} (digit : c.isDigit) (rest : List Char) :
    readScalar (c :: rest) = readNumber false (c :: rest) := by
  have other : ∀ d : Char, d.isDigit = false → c ≠ d := by
    rintro d notDigit rfl
    rw [digit] at notDigit
    cases notDigit
  rw [readScalar.eq_8]
  all_goals
    intro _ same
    exact absurd (List.cons.inj same).1 (other _ (by decide))

/-- A sign with a digit behind it starts a negative number. -/
theorem readScalar_minus {c : Char} (digit : c.isDigit) (rest : List Char) :
    readScalar ('-' :: c :: rest) = readNumber true (c :: rest) := by
  rw [readScalar.eq_7]
  intro _ same
  have isI : c = 'I' := (List.cons.inj same).1
  rw [isI] at digit
  cases digit

/-- An integer of at most `Text.maxDigits` digits is read back by `readScalar` from
`writeInteger`. -/
theorem readScalar_writeInteger {value : Int} (short : value.natAbs < 10 ^ Text.maxDigits)
    {rest : List Char} (ends : EndsNumber rest) :
    readScalar (writeInteger value ++ rest) = .ok (int value, rest) := by
  cases value with
  | ofNat n =>
      obtain ⟨c, others, digits, digit⟩ := exists_cons_toDigits n
      have number := readNumber_toDigits false short ends
      simp only [Int.ofNat_eq_natCast, writeInteger_ofNat, Int.natAbs_natCast] at number ⊢
      rw [digits, List.cons_append] at number ⊢
      rw [readScalar_digit digit, number]
      rfl
  | negSucc n =>
      obtain ⟨c, others, digits, digit⟩ := exists_cons_toDigits (n + 1)
      have number := readNumber_toDigits true short ends
      rw [Int.natAbs_negSucc] at number
      rw [writeInteger_negSucc, List.cons_append]
      rw [digits, List.cons_append] at number ⊢
      rw [readScalar_minus digit, number]
      rfl

end Footgun.Json
