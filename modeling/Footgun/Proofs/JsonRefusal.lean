import Footgun.Proofs.JsonNames
import Mathlib.Data.List.TakeWhile

/-! # Why a text is refused

Besides texts that do not follow the grammar, two kinds of texts are refused: those with too long an
integer, and those with too many lists and objects in each other. Both can be seen from the text,
without reading it. Main definitions:

* `Json.HasLongRun` — a text has more digits in a row than an integer may have;
* `Json.openings` — how many lists and objects are opened in a text;
* `Json.Accounts` — a reader that succeeds leaves the end of its text, and one that fails has a
  reason that can be seen from its text.

The main statement is `Json.explains_of_read_eq_error`. -/

namespace Footgun.Json

/-! ## Reasons -/

/-- In `text` there are more than `Text.maxDigits` digits in a row. -/
def HasLongRun (text : List Char) : Prop :=
  ∃ run, run <:+: text ∧ Text.maxDigits < run.length ∧ ∀ c ∈ run, c.isDigit

/-- Whether a character opens a list or an object. -/
def isOpening (c : Char) : Bool :=
  c == '[' || c == '\x7b'

/-- How many lists and objects are opened in `text`, as far as its characters tell. -/
def openings (text : List Char) : Nat :=
  text.countP isOpening

/-- A text that starts with `isOpening` has `openings`. -/
theorem openings_pos {c : Char} {rest : List Char} (opens : isOpening c) :
    0 < openings (c :: rest) := by
  rw [openings, List.countP_cons_of_pos opens]
  exact Nat.succ_pos _

/-- What can be seen from `text` if it is refused where it may hold `levels` of lists and
objects. -/
def Explains (levels : Nat) (text : List Char) : ReadError → Prop
  | .malformed => True
  | .hugeInteger => HasLongRun text
  | .tooDeep => levels < openings text

/-- If the end of a text has `HasLongRun`, so has the text. -/
theorem HasLongRun.mono {text rest : List Char} (long : HasLongRun rest) (isEnd : rest <:+ text) :
    HasLongRun text := by
  obtain ⟨run, inside, longer, digits⟩ := long
  exact ⟨run, inside.trans isEnd.isInfix, longer, digits⟩

/-- What `Explains` an error at the end of a text explains it in the text. -/
theorem Explains.mono {levels : Nat} {text rest : List Char} {error : ReadError}
    (explains : Explains levels rest error) (isEnd : rest <:+ text) :
    Explains levels text error := by
  cases error with
  | malformed => trivial
  | hugeInteger => exact HasLongRun.mono explains isEnd
  | tooDeep =>
      have more : openings rest ≤ openings text := isEnd.sublist.countP_le
      exact Nat.lt_of_lt_of_le explains more

/-- With a character that `isOpening` in front, what `Explains` an error does so at a level more. -/
theorem Explains.opened {levels : Nat} {c : Char} {rest : List Char} {error : ReadError}
    (opens : isOpening c) (explains : Explains levels rest error) :
    Explains (levels + 1) (c :: rest) error := by
  cases error with
  | malformed => trivial
  | hugeInteger => exact HasLongRun.mono explains (List.suffix_cons c rest)
  | tooDeep =>
      show levels + 1 < openings (c :: rest)
      rw [openings, List.countP_cons_of_pos opens]
      exact Nat.succ_lt_succ explains

/-! ## Readers -/

/-- A reader that succeeds leaves the end of `text`, and one that fails has a reason that can be
seen from it (`Explains`). -/
def Accounts {α : Type} (levels : Nat) (text : List Char) :
    Except ReadError (α × List Char) → Prop
  | .ok (_, rest) => rest <:+ text
  | .error error => Explains levels text error

namespace Accounts

variable {α β : Type} {levels : Nat} {text rest : List Char}

/-- What a reader `Accounts` for from the end of a text, it accounts for from the text. -/
theorem mono {result : Except ReadError (α × List Char)} (accounts : Accounts levels rest result)
    (isEnd : rest <:+ text) : Accounts levels text result := by
  cases result with
  | error error => exact Explains.mono accounts isEnd
  | ok read => exact List.IsSuffix.trans accounts isEnd

/-- What a reader `Accounts` for behind a character that `isOpening`, it accounts for with the
character, at a level more. -/
theorem opened {c : Char} {result : Except ReadError (α × List Char)} (opens : isOpening c)
    (accounts : Accounts levels rest result) : Accounts (levels + 1) (c :: rest) result := by
  cases result with
  | error error => exact Explains.opened opens accounts
  | ok read => exact List.IsSuffix.trans accounts (List.suffix_cons c rest)

/-- One reader after another `Accounts` for what both read, each from where the one before has
stopped. -/
theorem bind {first : Except ReadError (α × List Char)}
    {next : α × List Char → Except ReadError (β × List Char)}
    (accounts : Accounts levels text first)
    (later : ∀ value after, after <:+ text → Accounts levels text (next (value, after))) :
    Accounts levels text (first >>= next) := by
  cases first with
  | error error => exact accounts
  | ok read => exact later read.1 read.2 accounts

end Accounts

variable {text rest : List Char}

/-- What `skipGaps` leaves is the end of the text. -/
theorem skipGaps_suffix (text : List Char) : skipGaps text <:+ text :=
  List.dropWhile_suffix isGap

/-- What follows the first character behind the gaps is the end of the text. -/
theorem suffix_of_skipGaps_eq_cons {c : Char} (found : skipGaps text = c :: rest) :
    rest <:+ text := by
  have behind : c :: rest <:+ text := by
    rw [← found]
    exact skipGaps_suffix text
  exact (List.suffix_cons c rest).trans behind

/-! ## Strings and numbers -/

/-- What `readUnits` leaves is the end of the text. -/
theorem suffix_of_readUnits {units : List Nat} (found : readUnits text = some (units, rest)) :
    rest <:+ text := by
  fun_induction readUnits text generalizing units with
  | case1 => cases found
  | case2 after =>
      cases found
      exact List.suffix_cons _ _
  | case3 a b c d after ih =>
      obtain ⟨unit, _, found⟩ := Option.bind_eq_some_iff.mp found
      obtain ⟨⟨others, behind⟩, later, found⟩ := Option.bind_eq_some_iff.mp found
      cases found
      -- Six characters stand for the unit.
      exact (ih later).trans ⟨['\\', 'u', a, b, c, d], rfl⟩
  | case4 c after _ ih =>
      obtain ⟨meant, _, found⟩ := Option.bind_eq_some_iff.mp found
      obtain ⟨⟨others, behind⟩, later, found⟩ := Option.bind_eq_some_iff.mp found
      cases found
      exact (ih later).trans ⟨['\\', c], rfl⟩
  | case5 => cases found
  | case6 c after _ _ _ _ ih =>
      obtain ⟨⟨others, behind⟩, later, found⟩ := Option.bind_eq_some_iff.mp found
      cases found
      exact (ih later).trans (List.suffix_cons c after)

/-- The reader `readString` fails with `.malformed` only. -/
theorem accounts_readString (levels : Nat) (text : List Char) :
    Accounts levels text (readString text) := by
  rw [readString]
  cases found : readUnits text with
  | none => trivial
  | some read => exact suffix_of_readUnits found

/-- The digits that `readWhole` takes stand at the start of the text. -/
theorem readWhole_eq_some {whole : List Char} (found : readWhole text = some (whole, rest)) :
    whole ++ rest = text ∧ ∀ c ∈ whole, c.isDigit := by
  revert found
  fun_cases readWhole text with
  | case1 after =>
      intro found
      cases found
      exact ⟨rfl, List.forall_mem_singleton.mpr rfl⟩
  | case2 =>
      intro found
      cases found
  | case3 run _ _ =>
      intro found
      cases found
      exact ⟨List.takeWhile_append_dropWhile, fun c member => List.mem_takeWhile_imp member⟩

/-- What `readFraction` leaves is the end of the text. -/
theorem suffix_readFraction (text : List Char) : (readFraction text).2 <:+ text := by
  fun_cases readFraction text with
  | case1 after _ _ => exact List.suffix_rfl
  | case2 after _ =>
      exact (List.dropWhile_suffix _).trans (List.suffix_cons _ after)
  | case3 => exact List.suffix_rfl

/-- What `readExponent` leaves is the end of the text. -/
theorem suffix_readExponent (text : List Char) : (readExponent text).2 <:+ text := by
  fun_cases readExponent text with
  | case1 => exact List.suffix_rfl
  | case2 c behind _ negative digits isSigned run after _ isRun =>
      -- The digits follow the sign, if there is one.
      have signed : digits <:+ behind := by
        split at isSigned
        · cases isSigned
          exact List.suffix_cons _ _
        · cases isSigned
          exact List.suffix_cons _ _
        · cases isSigned
          exact List.suffix_rfl
      have unread : after <:+ digits := by
        rw [← (Prod.mk.inj isRun).2]
        exact List.dropWhile_suffix _
      exact (unread.trans signed).trans (List.suffix_cons c behind)
  | case3 => exact List.suffix_rfl
  | case4 => exact List.suffix_rfl

/-- The reader `readNumber` fails for the grammar, or for the digits at the start of the text. -/
theorem accounts_readNumber (levels : Nat) (negative : Bool) (text : List Char) :
    Accounts levels text (readNumber negative text) := by
  rw [readNumber]
  cases found : readWhole text with
  | none => trivial
  | some read =>
      obtain ⟨whole, rest⟩ := read
      obtain ⟨split, digits⟩ := readWhole_eq_some found
      have left : (readExponent (readFraction rest).2).2 <:+ text := by
        have behind : rest <:+ text := ⟨whole, split⟩
        exact ((suffix_readExponent _).trans (suffix_readFraction rest)).trans behind
      simp only
      split
      · split
        · -- The digits in front are the long run.
          rename_i long
          exact ⟨whole, ⟨[], rest, split⟩, long, digits⟩
        · exact left
      · exact left

/-- The reader `readScalar` fails as `readNumber` does. -/
theorem accounts_readScalar (levels : Nat) (text : List Char) :
    Accounts levels text (readScalar text) := by
  fun_cases readScalar text with
  | case1 rest => exact ⟨"null".toList, rfl⟩
  | case2 rest => exact ⟨"true".toList, rfl⟩
  | case3 rest => exact ⟨"false".toList, rfl⟩
  | case4 rest => exact ⟨"NaN".toList, rfl⟩
  | case5 rest => exact ⟨"Infinity".toList, rfl⟩
  | case6 rest => exact ⟨"-Infinity".toList, rfl⟩
  | case7 rest => exact (accounts_readNumber levels true rest).mono (List.suffix_cons _ rest)
  | case8 => exact accounts_readNumber levels false text

/-! ## Values -/

/-- With `fuel`, all readers account (`Accounts`) for what they leave and why they fail. -/
structure ReadsAccountably (fuel : Nat) : Prop where
  /-- Values. -/
  value (levels : Nat) (text : List Char) : Accounts levels text (readValue fuel levels text)
  /-- The items of a list. -/
  items (levels : Nat) (text : List Char) : Accounts levels text (readItems fuel levels text)
  /-- The fields of an object, put after fields that were read before. -/
  fields (levels : Nat) (before : List (String × Json)) (text : List Char) :
    Accounts levels text (readFields fuel levels before text)

namespace ReadsAccountably

variable {fuel : Nat}

/-- A list or an object opens a level for what is read inside with less `fuel`. -/
theorem value_succ (reads : ReadsAccountably fuel) (levels : Nat) (text : List Char) :
    Accounts levels text (readValue (fuel + 1) levels text) := by
  -- A string, a list or an object is read behind its first character, anything else as a scalar.
  rw [readValue.eq_def]
  simp only
  split
  · rename_i rest
    refine ((accounts_readString levels rest).mono (List.suffix_cons _ rest)).bind ?_
    exact fun value after isEnd => isEnd
  · exact openings_pos rfl
  · rename_i rest inner
    refine Accounts.opened rfl ?_
    split
    · rename_i after closed
      exact suffix_of_skipGaps_eq_cons closed
    · refine ((reads.items inner _).mono (skipGaps_suffix rest)).bind ?_
      exact fun items after isEnd => isEnd
  · exact openings_pos rfl
  · rename_i rest inner
    refine Accounts.opened rfl ?_
    split
    · rename_i after closed
      exact suffix_of_skipGaps_eq_cons closed
    · refine ((reads.fields inner [] _).mono (skipGaps_suffix rest)).bind ?_
      exact fun fields after isEnd => isEnd
  · exact accounts_readScalar levels text

/-- Items are read on the level of their list. -/
theorem items_succ (reads : ReadsAccountably fuel) (levels : Nat) (text : List Char) :
    Accounts levels text (readItems (fuel + 1) levels text) := by
  rw [readItems]
  refine (reads.value levels text).bind ?_
  intro item rest isEnd
  simp only
  split
  · rename_i after comma
    -- The next item starts behind the comma.
    have later : skipGaps after <:+ text :=
      ((skipGaps_suffix after).trans (suffix_of_skipGaps_eq_cons comma)).trans isEnd
    refine ((reads.items levels _).mono later).bind ?_
    exact fun items behind isEnd => isEnd
  · rename_i after closed
    exact (suffix_of_skipGaps_eq_cons closed).trans isEnd
  · trivial

/-- Fields are read on the level of their object. -/
theorem fields_succ (reads : ReadsAccountably fuel) (levels : Nat) (before : List (String × Json))
    (text : List Char) : Accounts levels text (readFields (fuel + 1) levels before text) := by
  rw [readFields.eq_def]
  simp only
  split
  · rename_i quoted
    refine ((accounts_readString levels quoted).mono (List.suffix_cons _ quoted)).bind ?_
    intro name rest isEnd
    simp only
    split
    · rename_i after colon
      -- The value stands behind the colon.
      have valueEnd : skipGaps after <:+ '"' :: quoted :=
        ((skipGaps_suffix after).trans (suffix_of_skipGaps_eq_cons colon)).trans isEnd
      refine ((reads.value levels _).mono valueEnd).bind ?_
      intro value behind isEnd
      simp only
      split
      · rename_i more comma
        have later : skipGaps more <:+ '"' :: quoted :=
          ((skipGaps_suffix more).trans (suffix_of_skipGaps_eq_cons comma)).trans isEnd
        exact (reads.fields levels _ _).mono later
      · rename_i more closed
        exact (suffix_of_skipGaps_eq_cons closed).trans isEnd
      · trivial
    · trivial
  · trivial

end ReadsAccountably

/-- All readers have `Accounts` for what they leave and why they fail. The induction is on
`fuel`. -/
theorem readsAccountably (fuel : Nat) : ReadsAccountably fuel := by
  -- The three readers call each other with less fuel, so they are dealt with together.
  induction fuel with
  | zero =>
      constructor
      · intro levels text
        rw [readValue]
        trivial
      · intro levels text
        rw [readItems]
        trivial
      · intro levels before text
        rw [readFields]
        trivial
  | succ fuel ih => exact ⟨ih.value_succ, ih.items_succ, ih.fields_succ⟩

/-- If `read text` fails, `Explains maxLevels` holds of the error: the grammar, too many digits in a
row, or more lists and objects opened than may stand in each other. -/
theorem explains_of_read_eq_error {text : String} {error : ReadError}
    (refused : read text = .error error) : Explains maxLevels text.toList error := by
  rw [read] at refused
  have accounts := (readsAccountably (2 * text.toList.length + 2)).value maxLevels
    (skipGaps text.toList)
  cases result : readValue (2 * text.toList.length + 2) maxLevels (skipGaps text.toList) with
  | error reason =>
      rw [result] at refused accounts
      cases refused
      exact Explains.mono accounts (skipGaps_suffix text.toList)
  | ok read =>
      rw [result, ok_bind] at refused
      -- A value that does not end the text makes the text one that is not of the grammar.
      simp only at refused
      split at refused
      · cases refused
      · cases refused
        trivial

end Footgun.Json
