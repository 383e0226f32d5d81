import Footgun.Proofs.WrapperRules

/-! # What stands before a wrapped program

A wrapper passes over some of its words before it comes to the program that it runs: options, values
of options, assignments, priorities and durations. Main definitions:

* `Shell.IsAmount` — a text is a priority or a duration;
* `Shell.IsAside` — a word is an assignment, a priority or a duration;
* `Shell.Prelude` — words that may stand before a program, given what may be the value of an option
  and what may stand alone;
* `Shell.PassedOver` — words that a wrapper passes over, one by one.

The main statement is `Shell.unwrap_behind_prelude`. The value of an option must not be empty: an
empty word does not count, so that the option takes the next word as its value, be it the
program. -/

namespace Footgun

/-! ## Letters and digits -/

namespace Text

/-- Whether no range of a table meets one of another table, both in ascending order. Ranges of the
other table that end before one range are left out for the later ones. -/
def Ranges.avoids : Ranges → Ranges → Bool
  | [], _ => true
  | range :: rest, others =>
    let later := others.dropWhile (·.2 < range.1)
    later.head?.all (range.2 < ·.1) && avoids rest later

/-- Ranges of tables that are `Pairwise` in order and have `avoids` are apart. -/
theorem Ranges.apart_of_avoids {ranges others : Ranges} (ascending : ranges.Pairwise (·.1 ≤ ·.1))
    (othersAscending : others.Pairwise (·.1 ≤ ·.1)) (avoids : ranges.avoids others)
    {range other : Nat × Nat} (member : range ∈ ranges) (otherMember : other ∈ others) :
    other.2 < range.1 ∨ range.2 < other.1 := by
  -- The other table loses its first ranges on the way, so the induction is for all of its tails.
  induction ranges generalizing others with
  | nil => cases member
  | cons first rest ih =>
      rw [Ranges.avoids, Bool.and_eq_true] at avoids
      obtain ⟨firstAscending, restAscending⟩ := List.pairwise_cons.mp ascending
      have parts := List.takeWhile_append_dropWhile (p := (·.2 < first.1)) (l := others)
      have laterAscending := othersAscending.sublist (List.dropWhile_sublist (·.2 < first.1))
      rw [← parts, List.mem_append] at otherMember
      rcases otherMember with passed | later
      · -- The other range ends before the first one, and so before all that follow it.
        have ends : other.2 < first.1 := by simpa using List.mem_takeWhile_imp passed
        rcases List.mem_cons.mp member with rfl | inRest
        · exact .inl ends
        · exact .inl (ends.trans_le (firstAscending range inRest))
      · rcases List.mem_cons.mp member with rfl | inRest
        · refine .inr ?_
          cases shape : others.dropWhile (·.2 < range.1) with
          | nil =>
              rw [shape] at later
              cases later
          | cons next more =>
              rw [shape] at later laterAscending avoids
              have starts : range.2 < next.1 := by simpa using avoids.1
              rcases List.mem_cons.mp later with rfl | inMore
              · exact starts
              · exact starts.trans_le ((List.pairwise_cons.mp laterAscending).1 other inMore)
        · exact ih restAscending laterAscending avoids.2 inRest later

/-- A table whose ranges start one after the other is `Pairwise` in order. -/
theorem Ranges.pairwise_of_isChain {ranges : Ranges} (chain : (ranges.map (·.1)).IsChain (· ≤ ·)) :
    ranges.Pairwise (·.1 ≤ ·.1) :=
  List.pairwise_map.mp chain.pairwise

/-- No character with `isLetter` has `isDigit`. -/
theorem isDigit_eq_false_of_isLetter {c : Char} (letter : isLetter c) : isDigit c = false := by
  by_contra digit
  rw [Bool.not_eq_false, isDigit, Ranges.covers_iff] at digit
  rw [isLetter, Ranges.covers_iff] at letter
  obtain ⟨digits, isDigits, digitsStart, digitsEnd⟩ := digit
  obtain ⟨letters, isLetters, lettersStart, lettersEnd⟩ := letter
  -- The tables are long, so that they avoid each other is tested in one pass through both.
  have digitsAscend : digitRanges.Pairwise (·.1 ≤ ·.1) :=
    Ranges.pairwise_of_isChain (by decide +kernel)
  have lettersAscend : letterRanges.Pairwise (·.1 ≤ ·.1) :=
    Ranges.pairwise_of_isChain (by decide +kernel)
  have avoids : digitRanges.avoids letterRanges := by decide +kernel
  rcases Ranges.apart_of_avoids digitsAscend lettersAscend avoids isDigits isLetters with
    before | after
  · omega
  · omega

end Text

namespace Shell

/-! ## Priorities and durations -/

/-- The `text` is a priority or a duration: digits, perhaps with one point among them, and perhaps
with units of time behind them. -/
def IsAmount (text : List Char) : Prop :=
  ∃ whole point fraction units : List Char, text = whole ++ point ++ fraction ++ units ∧
    whole ++ fraction ≠ [] ∧ (∀ c ∈ whole ++ fraction, Text.isDigit c) ∧
    (point = [] ∨ point = ['.']) ∧ ∀ c ∈ units, c ∈ "smhd".toList

/-- A text has `isDigits` exactly if it is not empty and all its characters are digits. -/
theorem isDigits_iff {text : List Char} :
    isDigits text = true ↔ text ≠ [] ∧ ∀ c ∈ text, Text.isDigit c := by
  simp [isDigits]

/-- A point, a hyphen, a slash and the units of time are no digits. -/
theorem not_mem_of_isDigit {c : Char} (digit : Text.isDigit c) :
    c ∉ ['.', '-', '/'] ++ "smhd".toList := by
  intro member
  have others : (['.', '-', '/'] ++ "smhd".toList).all (!Text.isDigit ·) := by decide +kernel
  have other := List.all_eq_true.mp others c member
  rw [digit] at other
  cases other

/-- The units of time at the end of a text are cut off, if none is before them. -/
theorem dropWhile_units {body units : List Char} (inside : ∀ c ∈ body, c ∉ "smhd".toList)
    (outside : ∀ c ∈ units, c ∈ "smhd".toList) :
    ((body ++ units).reverse.dropWhile ("smhd".toList.contains ·)).reverse = body := by
  rw [List.reverse_append, List.dropWhile_append_of_pos (by simpa using outside)]
  have stays : body.reverse.dropWhile ("smhd".toList.contains ·) = body.reverse := by
    rw [List.dropWhile_eq_self_iff]
    intro pos unit
    exact inside _ (List.mem_reverse.mp (List.getElem_mem pos)) (List.contains_iff_mem.mp unit)
  rw [stays, List.reverse_reverse]

/-- A text with `isQuantity` has `IsAmount`. -/
theorem isAmount_of_isQuantity {text : List Char} (quantity : isQuantity text) : IsAmount text := by
  rw [isQuantity, Bool.or_eq_true, isDigits_iff, isDigits_iff] at quantity
  rcases quantity with ⟨nonempty, digits⟩ | ⟨nonempty, digits⟩
  · exact ⟨text, [], [], [], by simp, by simpa using nonempty, by simpa using digits,
      .inl rfl, by simp⟩
  · -- What is cut off are the units, and what is erased is the point.
    let units := (text.reverse.takeWhile ("smhd".toList.contains ·)).reverse
    let body := (text.reverse.dropWhile ("smhd".toList.contains ·)).reverse
    have parts : text = body ++ units := by
      have reversed := congrArg List.reverse
        (List.takeWhile_append_dropWhile (p := ("smhd".toList.contains ·)) (l := text.reverse))
      rw [List.reverse_append, List.reverse_reverse] at reversed
      exact reversed.symm
    have areUnits : ∀ c ∈ units, c ∈ "smhd".toList := by
      intro c member
      exact List.contains_iff_mem.mp (List.mem_takeWhile_imp (List.mem_reverse.mp member))
    by_cases point : '.' ∈ body
    · obtain ⟨whole, fraction, _, split, erased⟩ := List.exists_erase_eq point
      rw [erased] at nonempty digits
      exact ⟨whole, ['.'], fraction, units, by simpa [split] using parts, nonempty, digits,
        .inr rfl, areUnits⟩
    · rw [List.erase_of_not_mem point] at nonempty digits
      exact ⟨body, [], [], units, by simpa using parts, by simpa using nonempty,
        by simpa using digits, .inl rfl, areUnits⟩

/-- Erasing the point of a number leaves its digits. -/
theorem erase_point {whole point fraction : List Char}
    (digits : ∀ c ∈ whole ++ fraction, Text.isDigit c) (isPoint : point = [] ∨ point = ['.']) :
    (whole ++ point ++ fraction).erase '.' = whole ++ fraction := by
  have noPoint : '.' ∉ whole ++ fraction := fun member =>
    not_mem_of_isDigit (digits _ member) (by decide)
  rcases isPoint with rfl | rfl
  · rw [List.append_nil, List.erase_of_not_mem noPoint]
  · rw [List.append_assoc, List.erase_append_right _ (mt (List.mem_append_left _) noPoint)]
    simp

/-- A text with `IsAmount` has `isQuantity`. -/
theorem IsAmount.isQuantity {text : List Char} (amount : IsAmount text) : isQuantity text := by
  obtain ⟨whole, point, fraction, units, rfl, nonempty, digits, isPoint, areUnits⟩ := amount
  -- Only then does cutting off the units stop where they start.
  have noUnit : ∀ c ∈ whole ++ point ++ fraction, c ∉ "smhd".toList := by
    intro c member
    have either : c ∈ whole ++ fraction ∨ c ∈ point := by
      simp only [List.mem_append] at member ⊢
      tauto
    rcases either with digit | isPart
    · have other := not_mem_of_isDigit (digits c digit)
      rw [List.mem_append, not_or] at other
      exact other.2
    · rcases isPoint with rfl | rfl
      · cases isPart
      · rw [List.mem_singleton.mp isPart]
        decide
  rw [Shell.isQuantity, dropWhile_units noUnit areUnits, erase_point digits isPoint,
    isDigits_iff.mpr ⟨nonempty, digits⟩, Bool.or_true]

/-- The test `isQuantity` for a priority or a duration is exact. -/
theorem isQuantity_iff {text : List Char} : isQuantity text = true ↔ IsAmount text :=
  ⟨isAmount_of_isQuantity, IsAmount.isQuantity⟩

/-- The characters of a text with `IsAmount` are digits, points and units of time. -/
theorem IsAmount.cases_of_mem {text : List Char} (amount : IsAmount text) {c : Char}
    (member : c ∈ text) : Text.isDigit c ∨ c = '.' ∨ c ∈ "smhd".toList := by
  obtain ⟨whole, point, fraction, units, rfl, _, digits, isPoint, areUnits⟩ := amount
  simp only [List.mem_append] at member digits
  rcases member with ((inWhole | inPoint) | inFraction) | inUnits
  · exact .inl (digits c (.inl inWhole))
  · rcases isPoint with rfl | rfl
    · cases inPoint
    · exact .inr (.inl (List.mem_singleton.mp inPoint))
  · exact .inl (digits c (.inr inFraction))
  · exact .inr (.inr (areUnits c inUnits))

/-- A text with `IsAmount` starts with a digit or a point. -/
theorem IsAmount.exists_head {text : List Char} (amount : IsAmount text) :
    ∃ c rest, text = c :: rest ∧ (Text.isDigit c ∨ c = '.') := by
  obtain ⟨whole, point, fraction, units, rfl, nonempty, digits, isPoint, _⟩ := amount
  cases whole with
  | cons first more => exact ⟨first, _, rfl, .inl (digits first (by simp))⟩
  | nil =>
      rcases isPoint with rfl | rfl
      · cases fraction with
        | nil => exact absurd rfl nonempty
        | cons first more => exact ⟨first, _, rfl, .inl (digits first (by simp))⟩
      · exact ⟨'.', _, rfl, .inr rfl⟩

/-- A text with `startsProgram` has not `IsAmount`, and does not start with a hyphen. -/
theorem not_isAmount_of_startsProgram {text : List Char} (starts : startsProgram text) :
    ¬ IsAmount text ∧ text.head? ≠ some '-' := by
  have slash {text : List Char} (member : '/' ∈ text) : ¬ IsAmount text := by
    intro amount
    rcases amount.cases_of_mem member with digit | same | unit
    · exact not_mem_of_isDigit digit (by decide)
    · revert same
      decide
    · revert unit
      decide
  unfold startsProgram at starts
  split at starts
  · exact ⟨slash (by simp), by simp⟩
  · exact ⟨slash (by simp), by simp⟩
  · -- Otherwise the text starts with a letter, which is no digit, no point and no hyphen.
    rename_i c rest _ _
    constructor
    · intro amount
      obtain ⟨first, more, same, digit | rfl⟩ := amount.exists_head
      · cases same
        rw [Text.isDigit_eq_false_of_isLetter starts] at digit
        cases digit
      · cases same
        revert starts
        decide +kernel
    · rw [List.head?_cons]
      intro same
      cases same
      revert starts
      decide +kernel
  · cases starts

/-! ## Words before a program -/

/-- The `word` is an assignment, a priority or a duration (`IsAmount`). -/
def IsAside (word : Word) : Prop :=
  '=' ∈ word.text.toList ∨ IsAmount word.text.toList

/-- Words that may stand before the program of a wrapper: options, each with its value (`isValue`)
if it takes one, and words that stand alone (`standsAlone`). -/
inductive Prelude (isValue standsAlone : Word → Prop) : List Word → Prop
  | nil : Prelude isValue standsAlone []
  /-- An option that takes no value. -/
  | option {word : Word} {rest : List Word} (hyphen : word.text.toList.head? = some '-')
    (bare : word.text ∉ valueOptions) (more : Prelude isValue standsAlone rest) :
    Prelude isValue standsAlone (word :: rest)
  /-- An option with its value. -/
  | valued {word value : Word} {rest : List Word} (takes : word.text ∈ valueOptions)
    (given : isValue value) (more : Prelude isValue standsAlone rest) :
    Prelude isValue standsAlone (word :: value :: rest)
  /-- A word that stands alone. -/
  | alone {word : Word} {rest : List Word} (plain : word.text.toList.head? ≠ some '-')
    (stands : standsAlone word) (more : Prelude isValue standsAlone rest) :
    Prelude isValue standsAlone (word :: rest)

/-- The `valueOptions` start with a hyphen. -/
theorem head?_of_mem_valueOptions {text : String} (takes : text ∈ valueOptions) :
    text.toList.head? = some '-' := by
  have all : ∀ text ∈ valueOptions, text.toList.head? = some '-' := by decide
  exact all text takes

namespace Prelude

variable {isValue standsAlone : Word → Prop} {word : Word} {rest : List Word}

/-- An option that takes no value may stand in front of a `Prelude`. -/
theorem cons_option_iff (hyphen : word.text.toList.head? = some '-')
    (bare : word.text ∉ valueOptions) :
    Prelude isValue standsAlone (word :: rest) ↔ Prelude isValue standsAlone rest := by
  constructor
  · intro words
    cases words with
    | option _ _ more => exact more
    | valued takes _ _ => exact absurd takes bare
    | alone plain _ _ => exact absurd hyphen plain
  · exact .option hyphen bare

/-- One of the `valueOptions` and its value may stand in front of a `Prelude`. -/
theorem cons_valued_iff (takes : word.text ∈ valueOptions) :
    Prelude isValue standsAlone (word :: rest) ↔
      ∃ value more, rest = value :: more ∧ isValue value ∧ Prelude isValue standsAlone more := by
  constructor
  · intro words
    cases words with
    | option _ bare _ => exact absurd takes bare
    | valued _ given more => exact ⟨_, _, rfl, given, more⟩
    | alone plain _ _ => exact absurd (head?_of_mem_valueOptions takes) plain
  · rintro ⟨value, more, rfl, given, words⟩
    exact .valued takes given words

/-- Any other word may stand in front of a `Prelude` if it `standsAlone`. -/
theorem cons_alone_iff (plain : word.text.toList.head? ≠ some '-') :
    Prelude isValue standsAlone (word :: rest) ↔
      standsAlone word ∧ Prelude isValue standsAlone rest := by
  constructor
  · intro words
    cases words with
    | option hyphen _ _ => exact absurd hyphen plain
    | valued takes _ _ => exact absurd (head?_of_mem_valueOptions takes) plain
    | alone _ stands more => exact ⟨stands, more⟩
  · rintro ⟨stands, more⟩
    exact .alone plain stands more

end Prelude

/-! ## What a wrapper does with one word -/

section Words

variable {word : Word} {rest : List Word}

/-- A text with a first character is not empty. -/
theorem ne_empty_of_head? {text : String} {c : Char} (head : text.toList.head? = some c) :
    text ≠ "" := by
  rintro rfl
  cases head

/-- An empty word does not count for `wrapped?`, not even as a value. -/
theorem wrapped?_empty (skipping : Bool) (empty : word.text = "") :
    wrapped? skipping (word :: rest) = wrapped? skipping rest := by
  rw [wrapped?, if_pos empty]

/-- The value of an option is passed over. -/
theorem wrapped?_value (written : word.text ≠ "") :
    wrapped? true (word :: rest) = wrapped? false rest := by
  rw [wrapped?, if_neg written, if_pos rfl]

/-- An option that takes no value is passed over. -/
theorem wrapped?_option (hyphen : word.text.toList.head? = some '-')
    (bare : word.text ∉ valueOptions) : wrapped? false (word :: rest) = wrapped? false rest := by
  have takesNone : valueOptions.contains word.text = false := by
    rw [← Bool.not_eq_true]
    exact mt List.contains_iff_mem.mp bare
  rw [wrapped?, if_neg (ne_empty_of_head? hyphen), if_neg Bool.false_ne_true, if_pos hyphen,
    takesNone]

/-- After one of the `valueOptions`, the next word is passed over as its value. -/
theorem wrapped?_valueOption (takes : word.text ∈ valueOptions) :
    wrapped? false (word :: rest) = wrapped? true rest := by
  have hyphen := head?_of_mem_valueOptions takes
  rw [wrapped?, if_neg (ne_empty_of_head? hyphen), if_neg Bool.false_ne_true, if_pos hyphen,
    List.contains_iff_mem.mpr takes]

/-- A word with `IsAside`, or without `isProgram`, is passed over. -/
theorem wrapped?_passed (written : word.text ≠ "") (plain : word.text.toList.head? ≠ some '-')
    (passed : IsAside word ∨ ¬ isProgram word) :
    wrapped? false (word :: rest) = wrapped? false rest := by
  rw [wrapped?, if_neg written, if_neg Bool.false_ne_true, if_neg plain]
  by_cases sets : '=' ∈ word.text.toList
  · rw [if_pos (List.contains_iff_mem.mpr sets)]
  · rw [if_neg (mt List.contains_iff_mem.mp sets)]
    by_cases amount : IsAmount word.text.toList
    · rw [if_pos amount.isQuantity]
    · have noProgram : ¬ isProgram word := by
        rcases passed with (isSet | isAmount) | no
        · exact absurd isSet sets
        · exact absurd isAmount amount
        · exact no
      rw [if_neg (mt isQuantity_iff.mp amount), if_neg noProgram]

/-- A word with `isProgram` has `startsProgram`. -/
theorem startsProgram_of_isProgram (names : isProgram word) : startsProgram word.text.toList := by
  rw [isProgram, Bool.and_eq_true] at names
  exact names.2

/-- A word with `isProgram` is not empty. -/
theorem ne_empty_of_isProgram (names : isProgram word) : word.text ≠ "" := by
  intro empty
  have starts := startsProgram_of_isProgram names
  rw [empty] at starts
  cases starts

/-- A word with `isProgram` and without `=` is what the wrapper runs. -/
theorem wrapped?_program (names : isProgram word) (plain : '=' ∉ word.text.toList) :
    wrapped? false (word :: rest) = some (word, rest) := by
  obtain ⟨noAmount, noHyphen⟩ := not_isAmount_of_startsProgram (startsProgram_of_isProgram names)
  rw [wrapped?, if_neg (ne_empty_of_isProgram names), if_neg Bool.false_ne_true, if_neg noHyphen,
    if_neg (mt List.contains_iff_mem.mp plain), if_neg (mt isQuantity_iff.mp noAmount),
    if_pos names]

end Words

/-! ## What a wrapper does with a prelude -/

/-- A word with `IsAside` is not empty. -/
theorem IsAside.ne_empty {word : Word} (aside : IsAside word) : word.text ≠ "" := by
  intro empty
  rw [IsAside, empty] at aside
  rcases aside with sets | amount
  · cases sets
  · obtain ⟨c, rest, nonempty, _⟩ := amount.exists_head
    cases nonempty

/-- A `Prelude` whose values are not empty is passed over. The induction is on the `Prelude`. -/
theorem wrapped?_append_of_prelude {words : List Word}
    (before : Prelude (·.text ≠ "") IsAside words) (tail : List Word) :
    wrapped? false (words ++ tail) = wrapped? false tail := by
  induction before with
  | nil => rfl
  | option hyphen bare _ ih => rw [List.cons_append, wrapped?_option hyphen bare, ih]
  | valued takes given _ ih =>
      rw [List.cons_append, List.cons_append, wrapped?_valueOption takes, wrapped?_value given, ih]
  | alone plain stands _ ih =>
      rw [List.cons_append, wrapped?_passed stands.ne_empty plain (.inl stands), ih]

/-- The `words` are a `Prelude` whose values are not empty, where words without `isProgram` may
stand alone as well. -/
def PassedOver (words : List Word) : Prop :=
  Prelude (·.text ≠ "") (fun word => IsAside word ∨ ¬ isProgram word) words

/-- A program among the words before another one is run in its place. -/
theorem wrapped?_ne_of_program {word : Word} (names : isProgram word)
    (plain : '=' ∉ word.text.toList) (words rest : List Word) (program : Word) :
    wrapped? false (word :: (words ++ program :: rest)) ≠ some (program, rest) := by
  rw [wrapped?_program names plain]
  intro same
  have lengths := congrArg (fun found => found.2.length) (Option.some.inj same)
  simp only [List.length_append, List.length_cons] at lengths
  omega

/-- A wrapper runs the `program` behind `words` exactly if the ones that are not empty have
`PassedOver`. With an option before them whose value is still to come, the first such word is that
value. -/
theorem wrapped?_append_iff {program : Word} (names : isProgram program)
    (plain : '=' ∉ program.text.toList) (words rest : List Word) :
    (wrapped? false (words ++ program :: rest) = some (program, rest) ↔
      PassedOver (words.filter (·.text ≠ ""))) ∧
    (wrapped? true (words ++ program :: rest) = some (program, rest) ↔
      ∃ value more, words.filter (·.text ≠ "") = value :: more ∧ value.text ≠ "" ∧
        PassedOver more) := by
  -- Both states go through one induction: an option with a value hands over from the first to the
  -- second.
  induction words with
  | nil =>
      refine ⟨iff_of_true (wrapped?_program names plain) .nil, iff_of_false ?_ ?_⟩
      · rw [List.nil_append, wrapped?_value (ne_empty_of_isProgram names)]
        intro found
        exact Nat.lt_irrefl _ (length_lt_of_wrapped? found)
      · rintro ⟨value, more, nothing, _⟩
        cases nothing
  | cons word words ih =>
      obtain ⟨ih, ihValue⟩ := ih
      by_cases empty : word.text = ""
      · rw [List.cons_append, wrapped?_empty _ empty, wrapped?_empty _ empty,
          List.filter_cons_of_neg (by simpa using empty)]
        exact ⟨ih, ihValue⟩
      · rw [List.cons_append, wrapped?_value empty,
          List.filter_cons_of_pos (by simpa using empty), ih]
        refine ⟨?_, fun more => ⟨word, _, rfl, empty, more⟩, ?_⟩
        · -- The word is read as the constructors of a prelude distinguish it.
          rw [PassedOver]
          by_cases takes : word.text ∈ valueOptions
          · rw [wrapped?_valueOption takes, Prelude.cons_valued_iff takes, ihValue]
            rfl
          · by_cases hyphen : word.text.toList.head? = some '-'
            · rw [wrapped?_option hyphen takes, Prelude.cons_option_iff hyphen takes, ih]
              rfl
            · rw [Prelude.cons_alone_iff hyphen]
              by_cases passed : IsAside word ∨ ¬ isProgram word
              · rw [wrapped?_passed empty hyphen passed, ih]
                exact (and_iff_right passed).symm
              · refine iff_of_false ?_ fun both => passed both.1
                rw [not_or, not_not] at passed
                exact wrapped?_ne_of_program passed.2 (fun sign => passed.1 (.inl sign)) words
                  rest program
        · rintro ⟨value, more, same, _, isPassed⟩
          cases same
          exact isPassed

/-- The command `unwrap command` has no more arguments than `command`. -/
theorem length_arguments_unwrap_le (command : Command) :
    (unwrap command).arguments.length ≤ command.arguments.length := by
  fun_induction unwrap command with
  | case1 command _ word rest runs ih => exact ih.trans (length_lt_of_wrapped? runs).le
  | case2 => exact Nat.le_refl _
  | case3 => exact Nat.le_refl _

/-- One of the `valueOptions` with an empty value takes the `program` for its value. -/
theorem wrapped?_of_empty_value {words : List Word} (before : Prelude (·.text ≠ "") IsAside words)
    {option blank program : Word} (takes : option.text ∈ valueOptions) (empty : blank.text = "")
    (written : program.text ≠ "") (rest : List Word) :
    wrapped? false (words ++ option :: blank :: program :: rest) = wrapped? false rest := by
  rw [wrapped?_append_of_prelude before, wrapped?_valueOption takes, wrapped?_empty _ empty,
    wrapped?_value written]

/-- One of the `valueOptions` with an empty value hides a `program` that is no wrapper itself. -/
theorem unwrap_ne_of_empty_value {name : String} (wrapper : baseName name ∈ wrappers)
    {words : List Word} (before : Prelude (·.text ≠ "") IsAside words) {option blank program : Word}
    (takes : option.text ∈ valueOptions) (empty : blank.text = "") (names : isProgram program)
    (noWrapper : baseName program.text ∉ wrappers) (rest : List Word) (position : Syntax.Position) :
    unwrap ⟨name, words ++ option :: blank :: program :: rest, position⟩ ≠
      unwrap ⟨program.text, rest, position⟩ := by
  have skipped := wrapped?_of_empty_value before takes empty (ne_empty_of_isProgram names) rest
  have stays : unwrap ⟨program.text, rest, position⟩ = ⟨program.text, rest, position⟩ :=
    unwrap_eq_self fun runs => noWrapper runs.1
  rw [stays]
  intro same
  have lengths := congrArg (fun command => command.arguments.length) same
  -- Either nothing is run, or what is run comes from the words behind the program, and so has
  -- fewer.
  cases runs : wrapped? false rest with
  | none =>
      have whole : ¬ RunsAnother ⟨name, words ++ option :: blank :: program :: rest, position⟩ := by
        rintro ⟨_, found⟩
        rw [skipped, runs] at found
        cases found
      rw [unwrap_eq_self whole] at lengths
      simp only [List.length_append, List.length_cons] at lengths
      omega
  | some found =>
      obtain ⟨word, behind⟩ := found
      have gives : unwrap ⟨name, words ++ option :: blank :: program :: rest, position⟩ =
          unwrap ⟨word.text, behind, position⟩ :=
        unwrap_of_wrapped? wrapper (skipped.trans runs)
      rw [gives] at lengths
      have fewer := length_arguments_unwrap_le ⟨word.text, behind, position⟩
      have less := length_lt_of_wrapped? runs
      dsimp only at lengths fewer less
      omega

/-! ## The law of preludes -/

/-- Words between a wrapper and its program: an option, an option with a value that looks like one,
an assignment and a duration. -/
def loginPrelude : List Word :=
  [⟨"-i", .literal⟩, ⟨"-u", .literal⟩, ⟨"-n", .literal⟩, ⟨"A=b", .literal⟩, ⟨"1.5h", .literal⟩]

/-- The words `loginPrelude` are a `Prelude` whose values are not empty. -/
theorem prelude_loginPrelude : Prelude (·.text ≠ "") IsAside loginPrelude := by
  refine .option (by decide) (by decide) (.valued (by decide) (by decide) ?_)
  refine .alone (by decide) (.inl (by decide)) (.alone (by decide) (.inr ?_) .nil)
  exact isAmount_of_isQuantity (by decide +kernel)

/-- A wrapper before a `program` that is written out.

(1) Behind a `Prelude` whose values are not empty, the command is peeled as the `program` with the
words behind it would be.

(2) The wrapper runs the `program` exactly if those of the words before it that are not empty have
`PassedOver`.

(3) One of the `valueOptions` at their end whose value is empty takes the `program` for its value,
and a `program` that is no wrapper itself is then lost. -/
theorem unwrap_behind_prelude {name : String} (wrapper : baseName name ∈ wrappers) {program : Word}
    (names : isProgram program) (plain : '=' ∉ program.text.toList) (rest : List Word)
    (position : Syntax.Position) :
    (∀ words, Prelude (·.text ≠ "") IsAside words →
      unwrap ⟨name, words ++ program :: rest, position⟩ = unwrap ⟨program.text, rest, position⟩) ∧
    (∀ words, wrapped? false (words ++ program :: rest) = some (program, rest) ↔
      PassedOver (words.filter (·.text ≠ ""))) ∧
    (∀ words option blank, Prelude (·.text ≠ "") IsAside words → option.text ∈ valueOptions →
      blank.text = "" →
      wrapped? false (words ++ option :: blank :: program :: rest) = wrapped? false rest ∧
      (baseName program.text ∉ wrappers →
        unwrap ⟨name, words ++ option :: blank :: program :: rest, position⟩ ≠
          unwrap ⟨program.text, rest, position⟩)) := by
  refine ⟨fun words before => ?_, fun words => (wrapped?_append_iff names plain words rest).1,
    fun words option blank before takes empty => ⟨?_, fun noWrapper => ?_⟩⟩
  · refine unwrap_of_wrapped? wrapper ?_
    exact (wrapped?_append_of_prelude before _).trans (wrapped?_program names plain)
  · exact wrapped?_of_empty_value before takes empty (ne_empty_of_isProgram names) rest
  · exact unwrap_ne_of_empty_value wrapper before takes empty names noWrapper rest position

/-- A removal behind a wrapper and `loginPrelude` is seen, and with an option more whose value is
empty it is not. -/
theorem unwrap_behind_prelude_login :
    baseName "/usr/bin/sudo" ∈ wrappers ∧ isProgram ⟨"rm", .literal⟩ ∧ '=' ∉ "rm".toList ∧
    Prelude (·.text ≠ "") IsAside loginPrelude ∧
    unwrap ⟨"/usr/bin/sudo", loginPrelude ++ ⟨"rm", .literal⟩ :: [⟨"/", .literal⟩], ⟨3, 1⟩⟩ =
      unwrap ⟨"rm", [⟨"/", .literal⟩], ⟨3, 1⟩⟩ ∧
    PassedOver (loginPrelude.filter (·.text ≠ "")) ∧
    unwrap ⟨"/usr/bin/sudo", loginPrelude ++ ⟨"-p", .literal⟩ :: ⟨"", .literal⟩ ::
        ⟨"rm", .literal⟩ :: [⟨"/", .literal⟩], ⟨3, 1⟩⟩ ≠
      unwrap ⟨"rm", [⟨"/", .literal⟩], ⟨3, 1⟩⟩ := by
  have wrapper : baseName "/usr/bin/sudo" ∈ wrappers := by decide
  have names : isProgram ⟨"rm", .literal⟩ := by decide +kernel
  have plain : '=' ∉ (Word.mk "rm" .literal).text.toList := by decide
  obtain ⟨seen, runs, hidden⟩ :=
    unwrap_behind_prelude wrapper names plain [⟨"/", .literal⟩] ⟨3, 1⟩
  refine ⟨wrapper, names, plain, prelude_loginPrelude, seen _ prelude_loginPrelude, ?_, ?_⟩
  · refine (runs loginPrelude).mp ?_
    exact (wrapped?_append_of_prelude prelude_loginPrelude _).trans (wrapped?_program names plain)
  · exact (hidden _ _ _ prelude_loginPrelude (by decide) rfl).2 (by decide)

/-- An empty prompt for a password hides a removal: the words between the wrapper and the program
are a `Prelude`, and the wrapper is taken to run the directory that is to be removed. -/
theorem unwrap_emptyPrompt :
    Prelude (fun _ => True) IsAside [⟨"-p", .literal⟩, ⟨"", .literal⟩] ∧
    baseName "sudo" ∈ wrappers ∧ isProgram ⟨"rm", .literal⟩ ∧ '=' ∉ "rm".toList ∧
    unwrap ⟨"sudo", [⟨"-p", .literal⟩, ⟨"", .literal⟩] ++ ⟨"rm", .literal⟩ ::
      [⟨"-rf", .literal⟩, ⟨"/", .literal⟩], ⟨1, 1⟩⟩ = ⟨"/", [], ⟨1, 1⟩⟩ ∧
    unwrap ⟨"rm", [⟨"-rf", .literal⟩, ⟨"/", .literal⟩], ⟨1, 1⟩⟩ =
      ⟨"rm", [⟨"-rf", .literal⟩, ⟨"/", .literal⟩], ⟨1, 1⟩⟩ := by
  refine ⟨.valued (by decide) trivial .nil, by decide, by decide, by decide, ?_, ?_⟩
  · have runs : wrapped? false ([⟨"-p", .literal⟩, ⟨"", .literal⟩] ++ ⟨"rm", .literal⟩ ::
        [⟨"-rf", .literal⟩, ⟨"/", .literal⟩]) = some (⟨"/", .literal⟩, []) := by decide +kernel
    rw [unwrap_of_wrapped? (by decide) runs]
    exact unwrap_eq_self (by decide)
  · exact unwrap_eq_self (by decide)

end Shell

end Footgun
