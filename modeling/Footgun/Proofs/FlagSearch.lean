import Footgun.Rule.Flags
import Mathlib.Data.List.DropRight
import Mathlib.Data.List.GetD

/-! # Where a hazardous flag stands

The search for a hazardous flag carries along the run of long flags that it has read. What it finds
is said here without the search: the first index whose word is a hazardous flag or completes one.
Main definitions:

* `writtenWords` — the words that are not empty;
* `longBlock` — the long flags at the end of some words, up to the last written word that is none;
* `runAt` — what the word at an index makes together with the long flags before it;
* `CompletesFlag` — the word at an index is a hazardous flag, or completes one;
* `Carries` — the run that the search carries along is the one that the words before it leave.

The main statement is `matchFlags_exact`. -/

namespace Footgun

/-! ## Runs of long flags -/

/-- The words that are not empty, in order. -/
def writtenWords (words : List String) : List String :=
  words.filter (· ≠ "")

/-- The longest block of words with `isLongFlag` that ends the `writtenWords`. -/
def longBlock (words : List String) : List String :=
  (writtenWords words).rtakeWhile isLongFlag

/-- The word at `index`, or the whole `longBlock` that ends there, joined, if the word is a long
flag. -/
def runAt (words : List String) (index : Nat) : String :=
  if isLongFlag (words.getD index "") then " ".intercalate (longBlock (words.take (index + 1)))
  else words.getD index ""

/-- The word at `index` is there and not empty, and it or the run that ends with it (`runAt`) is one
of the `flags`. -/
def CompletesFlag (flags words : List String) (index : Nat) : Prop :=
  words.getD index "" ≠ "" ∧ (words.getD index "" ∈ flags ∨ runAt words index ∈ flags)

instance (flags words : List String) : DecidablePred (CompletesFlag flags words) := fun index =>
  inferInstanceAs (Decidable
    (words.getD index "" ≠ "" ∧ (words.getD index "" ∈ flags ∨ runAt words index ∈ flags)))

/-- The flag that the word at `index` completes. The word alone goes before the run. -/
def flagAt (flags words : List String) (index : Nat) : String :=
  if words.getD index "" ∈ flags then words.getD index "" else runAt words index

/-- There are no written words among none. -/
@[simp] theorem writtenWords_nil : writtenWords [] = [] := rfl

/-- An empty word is not written. -/
@[simp] theorem writtenWords_cons_empty (words : List String) :
    writtenWords ("" :: words) = writtenWords words := by
  simp [writtenWords]

/-- A word that is not empty is written. -/
theorem writtenWords_cons {word : String} (written : word ≠ "") (words : List String) :
    writtenWords (word :: words) = word :: writtenWords words := by
  simp [writtenWords, written]

/-- The written words of `words ++ more` are those of both. -/
theorem writtenWords_append (words more : List String) :
    writtenWords (words ++ more) = writtenWords words ++ writtenWords more := by
  simp [writtenWords]

/-- A word with `isLongFlag` is not empty. -/
theorem ne_empty_of_isLongFlag {word : String} (long : isLongFlag word) : word ≠ "" := by
  rintro rfl
  revert long
  decide

/-- An empty word does not end a `longBlock`. -/
theorem longBlock_concat_empty (words : List String) :
    longBlock (words ++ [""]) = longBlock words := by
  simp [longBlock, writtenWords_append]

/-- A word with `isLongFlag` joins the `longBlock` before it. -/
theorem longBlock_concat_long {word : String} (long : isLongFlag word) (words : List String) :
    longBlock (words ++ [word]) = longBlock words ++ [word] := by
  have written := ne_empty_of_isLongFlag long
  rw [longBlock, writtenWords_append, writtenWords_cons written, writtenWords_nil,
    List.rtakeWhile_concat_pos _ _ _ long, longBlock]

/-- Any other word that is not empty ends the `longBlock`. -/
theorem longBlock_concat_short {word : String} (written : word ≠ "") (short : ¬ isLongFlag word)
    (words : List String) : longBlock (words ++ [word]) = [] := by
  rw [longBlock, writtenWords_append, writtenWords_cons written, writtenWords_nil,
    List.rtakeWhile_concat_neg _ _ _ short]

/-- A word with `isLongFlag` keeps it with more text behind. -/
theorem isLongFlag_append {run : String} (long : isLongFlag run) (text : String) :
    isLongFlag (run ++ text) := by
  rw [isLongFlag, List.isPrefixOf_iff_prefix] at long ⊢
  rw [String.toList_append]
  exact long.trans (List.prefix_append _ _)

/-- The run `extendRun run word` has `isLongFlag` exactly if `word` has. -/
theorem isLongFlag_extendRun (run word : String) :
    isLongFlag (extendRun run word) = isLongFlag word := by
  rw [extendRun]
  split
  · rename_i both
    rw [Bool.and_eq_true] at both
    rw [both.1, String.append_assoc, isLongFlag_append both.2]
  · rfl

/-! ## The run that the search carries along -/

/-- The run that `word` leaves: an empty word leaves the run before it. -/
def nextRun (run word : String) : String :=
  if word = "" then run else extendRun run word

/-- The `run` that the search carries along once it has read `before`: if it is long, it joins the
`longBlock` at their end, and otherwise there is no such block. -/
structure Carries (before : List String) (run : String) : Prop where
  /-- The run is long exactly if the words end with a block. -/
  long_iff : isLongFlag run = true ↔ longBlock before ≠ []
  /-- A long run joins the block. -/
  joins : isLongFlag run = true → run = " ".intercalate (longBlock before)

namespace Carries

variable {before : List String} {run : String}

/-- Before the first word, the run is empty. -/
theorem start : Carries [] "" :=
  ⟨by decide, by decide⟩

/-- If the search `Carries` the run of `before`, a long flag extends it to the whole block that it
ends, and any other word is a run by itself. -/
theorem extendRun_eq (carries : Carries before run) (word : String) :
    extendRun run word =
      if isLongFlag word then " ".intercalate (longBlock before ++ [word]) else word := by
  rw [extendRun]
  by_cases longWord : isLongFlag word
  · by_cases longRun : isLongFlag run
    · have block := carries.long_iff.mp longRun
      rw [if_pos (by simp [longWord, longRun]), if_pos longWord,
        String.intercalate_append_of_ne_nil block (List.cons_ne_nil _ _),
        String.intercalate_singleton, ← carries.joins longRun]
    · have noBlock : longBlock before = [] := by
        by_contra block
        exact longRun (carries.long_iff.mpr block)
      rw [if_neg (by simp [longRun]), if_pos longWord, noBlock, List.nil_append,
        String.intercalate_singleton]
  · rw [if_neg (by simp [longWord]), if_neg longWord]

/-- Once `word` is read, the search `Carries` what `nextRun` leaves of it. -/
theorem read (carries : Carries before run) (word : String) :
    Carries (before ++ [word]) (nextRun run word) := by
  by_cases empty : word = ""
  · rw [nextRun, if_pos empty, empty]
    refine ⟨?_, ?_⟩
    · rw [longBlock_concat_empty]
      exact carries.long_iff
    · rw [longBlock_concat_empty]
      exact carries.joins
  · rw [nextRun, if_neg empty]
    -- The search asks whether the whole run is long; it is exactly if the word that it ends with
    -- is.
    have same := isLongFlag_extendRun run word
    by_cases long : isLongFlag word
    · have block := longBlock_concat_long long before
      refine ⟨?_, fun _ => ?_⟩
      · rw [same, block]
        simp [long]
      · rw [carries.extendRun_eq, if_pos long, block]
    · have noBlock := longBlock_concat_short empty long before
      refine ⟨?_, fun longRun => ?_⟩
      · rw [same, noBlock]
        simp [long]
      · rw [same] at longRun
        exact absurd longRun long

/-- The run at the next word is what that word extends the run to. -/
theorem runAt_length (carries : Carries before run) (word : String) (rest : List String) :
    runAt (before ++ word :: rest) before.length = extendRun run word := by
  have here : (before ++ word :: rest).getD before.length "" = word := by simp
  have read : (before ++ word :: rest).take (before.length + 1) = before ++ [word] := by
    rw [List.append_cons]
    exact List.take_left' (by simp)
  rw [carries.extendRun_eq, runAt, here, read]
  by_cases long : isLongFlag word
  · rw [if_pos long, if_pos long, longBlock_concat_long long]
  · rw [if_neg long, if_neg long]

end Carries

/-! ## What the search finds -/

section Search

variable {flags words : List String}

/-- An index with `CompletesFlag` is one of the words. -/
theorem CompletesFlag.lt_length {index : Nat} (completes : CompletesFlag flags words index) :
    index < words.length := by
  by_contra beyond
  exact completes.1 (List.getD_eq_default _ _ (Nat.le_of_not_lt beyond))

/-- One step of `matchFlagsFrom`: it stops at a word with `CompletesFlag`, and goes on with
`nextRun` at any other. -/
theorem matchFlagsFrom_cons {before : List String} {run : String} (carries : Carries before run)
    (word : String) (rest : List String) :
    matchFlagsFrom flags before.length run (word :: rest) =
      if CompletesFlag flags (before ++ word :: rest) before.length then
        some ⟨flagAt flags (before ++ word :: rest) before.length, before.length⟩
      else matchFlagsFrom flags (before.length + 1) (nextRun run word) rest := by
  have here : (before ++ word :: rest).getD before.length "" = word := by simp
  -- What the search `Carries` is the run at this word.
  have completes_iff : CompletesFlag flags (before ++ word :: rest) before.length ↔
      word ≠ "" ∧ (word ∈ flags ∨ extendRun run word ∈ flags) := by
    rw [CompletesFlag, here, carries.runAt_length]
  have flagHere : flagAt flags (before ++ word :: rest) before.length =
      if word ∈ flags then word else extendRun run word := by
    rw [flagAt, here, carries.runAt_length]
  rw [matchFlagsFrom, flagHere, nextRun]
  simp only [completes_iff, List.contains_iff_mem]
  by_cases empty : word = ""
  · simp [empty]
  · by_cases alone : word ∈ flags
    · simp [empty, alone]
    · simp [empty, alone]

/-- The search `matchFlagsFrom` finds the first index with `CompletesFlag`, and `flagAt` it. The
induction is on the words to come; what it `Carries` ties the run to the words before. -/
theorem matchFlagsFrom_eq {before : List String} {run : String} (carries : Carries before run)
    (rest : List String) :
    matchFlagsFrom flags before.length run rest =
      ((List.range' before.length rest.length).find? (CompletesFlag flags (before ++ rest) ·)).map
        fun index => ⟨flagAt flags (before ++ rest) index, index⟩ := by
  induction rest generalizing before run with
  | nil => rfl
  | cons word rest ih =>
      rw [matchFlagsFrom_cons carries, List.length_cons, List.range'_succ]
      by_cases completes : CompletesFlag flags (before ++ word :: rest) before.length
      · rw [if_pos completes, List.find?_cons_of_pos (by simpa using completes), Option.map_some]
      · -- The word that is read joins those before, so that all words together stay the same.
        have later := ih (carries.read word)
        rw [List.length_append, List.length_singleton, ← List.append_cons] at later
        rw [if_neg completes, List.find?_cons_of_neg (by simpa using completes), later]

/-- The search `matchFlags` finds the first index with `CompletesFlag`, and `flagAt` it. -/
theorem matchFlags_eq (words flags : List String) :
    matchFlags words flags =
      ((List.range words.length).find? (CompletesFlag flags words ·)).map
        fun index => ⟨flagAt flags words index, index⟩ := by
  rw [List.range_eq_range']
  exact matchFlagsFrom_eq Carries.start words

/-- The search finds `found` exactly if `found.index` is the first index with `CompletesFlag` and
`found.flag` is `flagAt` it. -/
theorem matchFlags_eq_some_iff {found : FlagMatch} :
    matchFlags words flags = some found ↔
      (CompletesFlag flags words found.index ∧
        ∀ earlier < found.index, ¬ CompletesFlag flags words earlier) ∧
      found.flag = flagAt flags words found.index := by
  rw [matchFlags_eq, Option.map_eq_some_iff]
  constructor
  · rintro ⟨index, first, rfl⟩
    obtain ⟨completes, _, least⟩ := List.find?_range_eq_some.mp first
    refine ⟨⟨by simpa using completes, fun earlier before => ?_⟩, rfl⟩
    simpa using least earlier before
  · rintro ⟨⟨completes, least⟩, same⟩
    refine ⟨found.index, List.find?_range_eq_some.mpr ⟨by simpa using completes, ?_, ?_⟩, ?_⟩
    · exact List.mem_range.mpr completes.lt_length
    · intro earlier before
      simpa using least earlier before
    · rw [← same]

/-- The search finds nothing exactly if no index has `CompletesFlag`. -/
theorem matchFlags_eq_none_iff :
    matchFlags words flags = none ↔ ∀ index, ¬ CompletesFlag flags words index := by
  rw [matchFlags_eq, Option.map_eq_none_iff, List.find?_range_eq_none]
  constructor
  · intro none index completes
    have fails := none index completes.lt_length
    simp [completes] at fails
  · intro none index _
    simpa using none index

/-! ## Words that do not count -/

/-- Words that are appended do not change `runAt` an index before them. -/
theorem runAt_append {index : Nat} (inside : index < words.length) (more : List String) :
    runAt (words ++ more) index = runAt words index := by
  rw [runAt, runAt, List.getD_append _ _ _ _ inside, List.take_append_of_le_length inside]

/-- Whether an index has `CompletesFlag` does not depend on the words behind it. -/
theorem completesFlag_append_iff {index : Nat} (inside : index < words.length)
    (more : List String) :
    CompletesFlag flags (words ++ more) index ↔ CompletesFlag flags words index := by
  rw [CompletesFlag, CompletesFlag, runAt_append inside, List.getD_append _ _ _ _ inside]

/-- What `matchFlags` finds stays found if words are appended. -/
theorem matchFlags_append {found : FlagMatch} (first : matchFlags words flags = some found)
    (more : List String) : matchFlags (words ++ more) flags = some found := by
  obtain ⟨⟨completes, least⟩, same⟩ := matchFlags_eq_some_iff.mp first
  have inside := completes.lt_length
  refine matchFlags_eq_some_iff.mpr ⟨⟨(completesFlag_append_iff inside more).mpr completes, ?_⟩, ?_⟩
  · intro earlier before appended
    exact least earlier before ((completesFlag_append_iff (before.trans inside) more).mp appended)
  · rw [same, flagAt, flagAt, runAt_append inside, List.getD_append _ _ _ _ inside]

/-- Among the `writtenWords`, the search finds the same flag, at the number of words that are
written before it. The induction is on the words to come. -/
theorem matchFlagsFrom_writtenWords (flags before : List String) (run : String)
    (rest : List String) :
    matchFlagsFrom flags (writtenWords before).length run (writtenWords rest) =
      (matchFlagsFrom flags before.length run rest).map fun found =>
        ⟨found.flag, (writtenWords ((before ++ rest).take found.index)).length⟩ := by
  -- The indices count the words before, so that these have to grow along with the run.
  induction rest generalizing before run with
  | nil => rfl
  | cons word rest ih =>
      by_cases empty : word = ""
      · have step := ih (before ++ [word]) run
        rw [List.length_append, List.length_singleton, ← List.append_cons,
          writtenWords_append, empty, writtenWords_cons_empty, writtenWords_nil,
          List.append_nil] at step
        rw [empty, writtenWords_cons_empty, step]
        conv_rhs => rw [matchFlagsFrom, if_pos rfl]
      · have step := ih (before ++ [word]) (extendRun run word)
        rw [List.length_append, List.length_singleton, ← List.append_cons, writtenWords_append,
          writtenWords_cons empty, writtenWords_nil, List.length_append,
          List.length_singleton] at step
        rw [writtenWords_cons empty, matchFlagsFrom, matchFlagsFrom, if_neg empty, if_neg empty]
        split
        · simp
        · split
          · simp
          · exact step

/-- The flag that is found is the word at its index, or at least two long flags joined by `" "`. -/
theorem flag_of_matchFlags {found : FlagMatch} (first : matchFlags words flags = some found) :
    found.flag = words.getD found.index "" ∨
      ∃ block, 2 ≤ block.length ∧ (∀ word ∈ block, isLongFlag word) ∧
        block <:+ writtenWords (words.take (found.index + 1)) ∧
        found.flag = " ".intercalate block := by
  obtain ⟨⟨completes, _⟩, same⟩ := matchFlags_eq_some_iff.mp first
  rw [same, flagAt]
  split
  · exact .inl rfl
  · rw [runAt]
    split
    · rename_i long
      have inside := completes.lt_length
      have read : words.take (found.index + 1) =
          words.take found.index ++ [words.getD found.index ""] := by
        rw [List.getD_eq_getElem _ _ inside, List.take_append_getElem inside]
      have block : longBlock (words.take (found.index + 1)) =
          longBlock (words.take found.index) ++ [words.getD found.index ""] := by
        rw [read, longBlock_concat_long long]
      by_cases only : longBlock (words.take found.index) = []
      · -- The block is the word alone.
        rw [block, only]
        exact .inl (String.intercalate_singleton)
      · refine .inr ⟨longBlock (words.take (found.index + 1)), ?_, ?_,
          List.rtakeWhile_suffix _ _, rfl⟩
        · have pos := List.length_pos_of_ne_nil only
          rw [block, List.length_append, List.length_singleton]
          omega
        · intro word member
          exact List.mem_rtakeWhile_imp member
    · exact .inl rfl

end Search

/-! ## The exact result -/

/-- What `matchFlags words flags` gives.

(1) It is `some ⟨flag, index⟩` exactly if `index` is the first one with `CompletesFlag`, and `flag`
is the word there if that is one of the `flags`, and `runAt words index` otherwise.

(2) It is `none` exactly if no index has `CompletesFlag`.

(3) Short flags never join: what is found is a single word, or joins at least two words with
`isLongFlag`.

(4) Empty words count for nothing but the index.

(5) Words behind what is found do not count at all. -/
theorem matchFlags_exact (words flags : List String) :
    (∀ flag index, matchFlags words flags = some ⟨flag, index⟩ ↔
      (CompletesFlag flags words index ∧ ∀ earlier < index, ¬ CompletesFlag flags words earlier) ∧
      flag = if words.getD index "" ∈ flags then words.getD index "" else runAt words index) ∧
    (matchFlags words flags = none ↔ ∀ index, ¬ CompletesFlag flags words index) ∧
    (∀ found, matchFlags words flags = some found →
      found.flag = words.getD found.index "" ∨
        ∃ block, 2 ≤ block.length ∧ (∀ word ∈ block, isLongFlag word) ∧
          block <:+ writtenWords (words.take (found.index + 1)) ∧
          found.flag = " ".intercalate block) ∧
    (matchFlags (writtenWords words) flags = (matchFlags words flags).map fun found =>
      ⟨found.flag, (writtenWords (words.take found.index)).length⟩) ∧
    (∀ found more, matchFlags words flags = some found →
      matchFlags (words ++ more) flags = some found) :=
  ⟨fun _ _ => matchFlags_eq_some_iff, matchFlags_eq_none_iff, fun _ => flag_of_matchFlags,
    matchFlagsFrom_writtenWords flags [] "" words, fun _ more first => matchFlags_append first more⟩

/-- Two long flags with an empty word between them are found as one run, behind a short flag and
before another hazardous flag. -/
theorem matchFlags_exact_longFlags :
    CompletesFlag Rule.standard.flags ["-v", "--recursive", "", "--force", "/"] 3 ∧
    matchFlags ["-v", "--recursive", "", "--force", "/"] Rule.standard.flags =
      some ⟨"--recursive --force", 3⟩ ∧
    matchFlags (writtenWords ["-v", "--recursive", "", "--force", "/"]) Rule.standard.flags =
      some ⟨"--recursive --force", 2⟩ ∧
    matchFlags (["-v", "--recursive", "", "--force", "/"] ++ ["-rf"]) Rule.standard.flags =
      some ⟨"--recursive --force", 3⟩ := by
  obtain ⟨exact, _, _, written, appended⟩ :=
    matchFlags_exact ["-v", "--recursive", "", "--force", "/"] Rule.standard.flags
  have completes :
      CompletesFlag Rule.standard.flags ["-v", "--recursive", "", "--force", "/"] 3 := by
    decide
  have found := (exact "--recursive --force" 3).mpr ⟨⟨completes, by decide⟩, by decide⟩
  refine ⟨completes, found, ?_, appended _ _ found⟩
  rw [written, found]
  decide

end Footgun
