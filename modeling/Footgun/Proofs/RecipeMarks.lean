import Footgun.Makefile
import Footgun.Proofs.FlagSearch
import Footgun.Proofs.LineWords

/-! # Recipe marks

The characters `@`, `-` and `+` before the command of a recipe line tell how to run it. The search
for a hazardous command takes them off every word, so that the option `--rm` passes for the command
`rm`. Main definitions:

* `Mention` — a word of a line is the name of a command, up to its case, behind some recipe marks;
* `InvokedAt` — a command is invoked at a column: marks stand before it only at the start of the
  line.

The main statement is `Makefile.hit_points_at_name`. -/

namespace Footgun

/-- The flag that `matchFlags` finds is one of the `flags`. -/
theorem flag_mem_of_matchFlags {words flags : List String} {found : FlagMatch}
    (first : matchFlags words flags = some found) : found.flag ∈ flags := by
  obtain ⟨⟨completes, _⟩, same⟩ := matchFlags_eq_some_iff.mp first
  rw [same, flagAt]
  split
  · assumption
  · rename_i notAlone
    exact completes.2.resolve_left notAlone

/-- Only the empty text is empty in lower case. -/
theorem Text.lowercase_eq_empty_iff {text : String} : Text.lowercase text = "" ↔ text = "" := by
  rw [Text.lowercase, ← String.toList_inj, String.toList_ofList, ← String.toList_inj]
  cases text.toList with
  | nil => simp [Text.lowercaseAfter]
  | cons c rest =>
      have written : Text.lowercaseAfter [] (c :: rest) ≠ [] := by
        rw [Text.lowercaseAfter]
        split
        · simp
        · split <;> simp
      simp [written]

namespace Makefile

open Text (Placed isBlank IsSolid IsWordBetween)

/-! ## Where hits come from -/

/-- The hit that `firstHit?` gives is `hitAt?` one of the words. -/
theorem exists_hitAt?_of_firstHit? {rule : Rule} {words : List Placed} {hit : Hit}
    (found : firstHit? rule words = some hit) :
    ∃ before word following, words = before ++ word :: following ∧
      hitAt? rule word following = some hit := by
  induction words with
  | nil => cases found
  | cons word following ih =>
      rw [firstHit?, Option.or_eq_some_iff] at found
      rcases found with here | ⟨_, later⟩
      · exact ⟨[], word, following, rfl, here⟩
      · obtain ⟨before, other, rest, rfl, there⟩ := ih later
        exact ⟨word :: before, other, rest, rfl, there⟩

/-- A hit at a word says that the word names the command behind its marks, up to the case of the
letters, that the flag is one of `rule.flags`, and that the column is that of the name. -/
theorem hitAt?_eq_some {rule : Rule} {word : Placed} {following : List Placed} {hit : Hit}
    (found : hitAt? rule word following = some hit) :
    Text.lowercase (String.ofList (word.text.dropWhile isRecipePrefix)) = Text.lowercase rule.name ∧
      hit.flag ∈ rule.flags ∧
      hit.column = word.start + (word.text.takeWhile isRecipePrefix).length + 1 := by
  rw [hitAt?] at found
  dsimp only at found
  split at found
  · rename_i names
    obtain ⟨flag, matched, rfl⟩ := Option.map_eq_some_iff.mp found
    refine ⟨names, flag_mem_of_matchFlags matched, ?_⟩
    have whole := congrArg List.length
      (List.takeWhile_append_dropWhile (p := isRecipePrefix) (l := word.text))
    rw [List.length_append] at whole
    dsimp only
    omega
  · cases found

/-- A line with a hit is no comment, and the hit is the first one among its words. -/
theorem firstHit?_of_hazardIn {rule : Rule} {line : List Char} {hit : Hit}
    (found : hazardIn rule line = some hit) :
    firstHit? rule (Text.wordsFrom 0 line) = some hit := by
  rw [hazardIn] at found
  split at found
  · cases found
  · exact found

/-! ## Names behind marks -/

/-- A word of `line` that names the command of `rule`, up to the case of its letters, behind some
recipe marks. -/
structure Mention (rule : Rule) (line : List Char) where
  /-- What comes before the word. -/
  before : List Char
  /-- The recipe marks that the word starts with. -/
  marks : List Char
  /-- The rest of the word. -/
  name : List Char
  /-- What comes behind the word. -/
  after : List Char
  /-- These are the parts of the line. -/
  split : line = before ++ (marks ++ name ++ after)
  /-- The marks and the name are a word. -/
  isWord : IsWordBetween before (marks ++ name) after
  /-- The marks are marks. -/
  isMark : ∀ c ∈ marks, isRecipePrefix c
  /-- The name is that of the command. -/
  names : Text.lowercase (String.ofList name) = Text.lowercase rule.name

/-- The column of the name. -/
def Mention.column {rule : Rule} {line : List Char} (mention : Mention rule line) : Nat :=
  mention.before.length + mention.marks.length + 1

/-- A hit in a line has one of `rule.flags`, and the column of a `Mention`. -/
theorem exists_mention_of_hazardIn {rule : Rule} {line : List Char} {hit : Hit}
    (found : hazardIn rule line = some hit) :
    hit.flag ∈ rule.flags ∧ ∃ mention : Mention rule line, hit.column = mention.column := by
  obtain ⟨earlier, word, following, words, here⟩ :=
    exists_hitAt?_of_firstHit? (firstHit?_of_hazardIn found)
  obtain ⟨names, flag, column⟩ := hitAt?_eq_some here
  have member : word ∈ Text.wordsFrom 0 line := by
    rw [words]
    exact List.mem_append_right _ List.mem_cons_self
  obtain ⟨before, after, split, start, between⟩ := Text.mem_wordsFrom_iff.mp member
  -- The word of the hit is cut into its marks and the name behind them.
  have whole := List.takeWhile_append_dropWhile (p := isRecipePrefix) (l := word.text)
  refine ⟨flag,
    ⟨before, word.text.takeWhile isRecipePrefix, word.text.dropWhile isRecipePrefix, after, ?_, ?_,
      ?_, names⟩, ?_⟩
  · rw [whole]
    exact split
  · rw [whole]
    exact between
  · exact fun c member => List.mem_takeWhile_imp member
  · rw [column, start, Nat.zero_add]
    rfl

/-! ## Invocations -/

/-- The command of `rule` is invoked at a column of a line: its name, up to the case of its letters,
ends a word there, and is a whole word or stands right behind recipe marks at the start of the
line. -/
inductive InvokedAt (rule : Rule) : List Char → Nat → Prop
  /-- The name is a whole word. -/
  | word {before name after : List Char} (between : IsWordBetween before name after)
    (names : Text.lowercase (String.ofList name) = Text.lowercase rule.name) :
    InvokedAt rule (before ++ (name ++ after)) (before.length + 1)
  /-- The name is the rest of the first word of the line, which starts with recipe marks. -/
  | marked {gap marks name after : List Char} (isGap : ∀ c ∈ gap, isBlank c)
    (isMark : ∀ c ∈ marks, isRecipePrefix c) (isSolid : IsSolid name)
    (closes : after.head?.all isBlank)
    (names : Text.lowercase (String.ofList name) = Text.lowercase rule.name) :
    InvokedAt rule (gap ++ marks ++ (name ++ after)) ((gap ++ marks).length + 1)

/-- A recipe mark is no white space. -/
theorem isBlank_eq_false_of_isRecipePrefix {c : Char} (isMark : isRecipePrefix c) :
    isBlank c = false := by
  simp only [isRecipePrefix, Bool.or_eq_true, beq_iff_eq] at isMark
  obtain (rfl | rfl) | rfl := isMark <;> decide

/-- A text that ends with recipe marks does not end with white space. -/
theorem eq_nil_of_opens (before : List Char) {marks : List Char}
    (isMark : ∀ c ∈ marks, isRecipePrefix c) (opens : (before ++ marks).getLast?.all isBlank) :
    marks = [] := by
  rcases List.eq_nil_or_concat marks with none | ⟨others, last, rfl⟩
  · exact none
  · have lastMark := isBlank_eq_false_of_isRecipePrefix (isMark last (by simp))
    rw [List.concat_eq_append, ← List.append_assoc, List.getLast?_concat, Option.all_some,
      lastMark] at opens
    cases opens

namespace Mention

variable {rule : Rule} {line : List Char} (mention : Mention rule line)

/-- The column of a `Mention` is the one behind its marks. -/
theorem column_eq : mention.column = (mention.before ++ mention.marks).length + 1 := by
  rw [column, List.length_append]

/-- A line is what stands `before` a `Mention`, its `marks`, its `name`, and what comes `after`
it. -/
theorem split_column :
    line = mention.before ++ mention.marks ++ (mention.name ++ mention.after) := by
  rw [List.append_assoc, ← List.append_assoc mention.marks]
  exact mention.split

/-- What stands before the column of a `Mention` is what stands `before` it, and its `marks`. -/
theorem take_column : line.take (mention.column - 1) = mention.before ++ mention.marks := by
  have whole := congrArg (List.take (mention.column - 1)) mention.split_column
  rw [whole, mention.column_eq, Nat.add_sub_cancel, List.take_left]

/-- If the rule has a name, the name of a `Mention` has `IsSolid`. -/
theorem isSolid_name (named : rule.name ≠ "") : IsSolid mention.name := by
  refine ⟨?_, fun c member => mention.isWord.solid c (List.mem_append_right _ member)⟩
  intro empty
  have names := mention.names
  rw [empty, String.ofList_nil] at names
  exact named
    (Text.lowercase_eq_empty_iff.mp (names.symm.trans (Text.lowercase_eq_empty_iff.mpr rfl)))

/-- If the rule is `InvokedAt` the column of a `Mention`, this has no marks, or nothing but white
space before it. -/
theorem unmarked_or_first {column : Nat} (invoked : InvokedAt rule line column)
    (same : column = mention.column) : mention.marks = [] ∨ ∀ c ∈ mention.before, isBlank c := by
  have whole := mention.split_column
  rw [mention.column_eq] at same
  cases invoked with
  | @word before name after between names =>
      have start : before = mention.before ++ mention.marks :=
        (List.append_inj whole (by omega)).1
      left
      apply eq_nil_of_opens mention.before mention.isMark
      rw [← start]
      exact between.opens
  | @marked gap marks name after isGap isMark isSolid closes names =>
      have start : gap ++ marks = mention.before ++ mention.marks :=
        (List.append_inj whole (by omega)).1
      right
      -- Both split the same text into a part that ends with white space and marks.
      rcases List.append_eq_append_iff.mp start with ⟨extra, before, rest⟩ | ⟨extra, before, _⟩
      · have none : extra = [] := by
          apply eq_nil_of_opens gap
          · intro c member
            apply isMark
            rw [rest]
            exact List.mem_append_left _ member
          · rw [← before]
            exact mention.isWord.opens
        rw [before, none, List.append_nil]
        exact isGap
      · intro c member
        apply isGap
        rw [before]
        exact List.mem_append_left _ member

/-- A rule with a name is `InvokedAt` the column of a `Mention` exactly if this has no marks, or
nothing but white space before it. -/
theorem invokedAt_iff (named : rule.name ≠ "") :
    InvokedAt rule line mention.column ↔ mention.marks = [] ∨ ∀ c ∈ mention.before, isBlank c := by
  refine ⟨fun invoked => mention.unmarked_or_first invoked rfl, ?_⟩
  have whole := mention.split_column
  rw [column_eq]
  rintro (noMarks | first)
  · have between := mention.isWord
    rw [noMarks, List.nil_append] at between
    rw [noMarks, List.append_nil] at whole ⊢
    have invoked := InvokedAt.word between mention.names
    rwa [← whole] at invoked
  · have invoked := InvokedAt.marked first mention.isMark (mention.isSolid_name named)
      mention.isWord.closes mention.names
    rwa [← whole] at invoked

end Mention

/-! ## An option that ends like a command -/

/-- A recipe line that runs a container and has it removed afterwards. -/
def optionLine : List Char :=
  "\tdocker run --rm -rf image".toList

/-- The option in `optionLine`, taken for a command behind two marks. -/
def optionMention : Mention Rule.standard optionLine where
  before := "\tdocker run ".toList
  marks := "--".toList
  name := "rm".toList
  after := " -rf image".toList
  split := by decide
  isWord :=
    ⟨⟨by decide, by simpa using (by decide : "--rm".toList.all (!isBlank ·))⟩, by decide, by decide⟩
  isMark := List.all_eq_true.mp (by decide)
  names := rfl

/-- A recipe line that removes a directory without a word. -/
def silentLine : List Char :=
  "@RM -rf build".toList

/-! ## What a hit points at -/

/-- A hit of `hazardIn` has one of `rule.flags`, and its column is that of a `Mention`: there a word
ends with the name of the rule, up to the case of the letters, with nothing but recipe marks before
it. The command is `InvokedAt` this column exactly if there are no marks, or the word is the first
one of the line. -/
theorem hit_points_at_name {rule : Rule} {line : List Char} {hit : Hit} (named : rule.name ≠ "")
    (found : hazardIn rule line = some hit) :
    hit.flag ∈ rule.flags ∧ ∃ mention : Mention rule line, hit.column = mention.column ∧
      (InvokedAt rule line hit.column ↔ mention.marks = [] ∨ ∀ c ∈ mention.before, isBlank c) := by
  obtain ⟨flag, mention, column⟩ := exists_mention_of_hazardIn found
  refine ⟨flag, mention, column, ?_⟩
  rw [column]
  exact mention.invokedAt_iff named

/-- The mark at the start of `silentLine` comes before an invocation. -/
theorem hit_points_at_name_silent :
    hazardIn Rule.standard silentLine = some ⟨"-rf", 2⟩ ∧ "-rf" ∈ Rule.standard.flags ∧
      InvokedAt Rule.standard silentLine 2 := by
  have found : hazardIn Rule.standard silentLine = some ⟨"-rf", 2⟩ := by decide
  obtain ⟨flag, mention, column, invoked_iff⟩ := hit_points_at_name (by decide) found
  refine ⟨found, flag, invoked_iff.mpr ?_⟩
  have start : ['@'] = mention.before ++ mention.marks := by
    rw [← mention.take_column, ← column]
    decide
  -- Either the mark is one of the marks, or it belongs to what comes before the word.
  cases before : mention.before with
  | nil => simp
  | cons first rest =>
      rw [before, List.cons_append, List.cons.injEq] at start
      exact .inl (List.append_eq_nil_iff.mp start.2.symm).2

/-- In `optionLine`, the option of a command passes for another command: there is a hit, but the
command is not `InvokedAt` its column. -/
theorem hazardIn_optionLine :
    hazardIn Rule.standard optionLine = some ⟨"-rf", 15⟩ ∧
    ¬ InvokedAt Rule.standard optionLine 15 := by
  refine ⟨by decide, fun invoked => ?_⟩
  obtain unmarked | first := (optionMention.invokedAt_iff (by decide)).mp invoked
  · cases unmarked
  · have letter := first 'd' (by decide)
    cases letter

end Makefile

end Footgun
