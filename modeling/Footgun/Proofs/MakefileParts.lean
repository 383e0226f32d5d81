import Footgun.Proofs.FindingOrder
import Footgun.Proofs.RecipeMarks

/-! # Makefiles in parts

A Makefile is judged line by line, and a line command by command. What is found in the whole is
therefore what is found in its parts, further down or further to the right. Main definitions:

* `Makefile.Hit.shift` — a hit in a line that stands behind others;
* `Finding.down` — a finding in a text that stands below others;
* `Scan.findingOn?` — the finding on a line, of which there is at most one.

The main statements are `Makefile.hazardIn_separated` for the commands of a line and
`Scan.scanMakefile_by_lines` for the lines of a text. -/

namespace Footgun

namespace Makefile

open Text (Placed isBlank IsSolid)

/-! ## Words further on -/

/-- The same hit in a line with `count` characters put in front. -/
def Hit.shift (count : Nat) (hit : Hit) : Hit :=
  ⟨hit.flag, hit.column + count⟩

/-- A word that is `shift`ed has its hit as much further on. -/
theorem hitAt?_shift (rule : Rule) (count : Nat) (word : Placed) (following : List Placed) :
    hitAt? rule (word.shift count) (following.map (Placed.shift count)) =
      (hitAt? rule word following).map (Hit.shift count) := by
  have texts : (following.map (Placed.shift count)).map (·.text) = following.map (·.text) := by
    rw [List.map_map]
    rfl
  simp only [hitAt?, Placed.text_shift, Placed.start_shift, texts]
  split
  · rw [Option.map_map]
    congr 1
    funext found
    simp only [Function.comp_apply, Hit.shift, Hit.mk.injEq, true_and]
    omega
  · rfl

/-- Words that are `shift`ed have their first hit as much further on. -/
theorem firstHit?_shift (rule : Rule) (count : Nat) (words : List Placed) :
    firstHit? rule (words.map (Placed.shift count)) =
      (firstHit? rule words).map (Hit.shift count) := by
  induction words with
  | nil => rfl
  | cons word following ih => simp only [List.map_cons, firstHit?, hitAt?_shift, ih, Option.map_or]

/-! ## Words before a separator -/

/-- What `untilSeparator` leaves does not depend on the words behind the first of the
`separators`. -/
theorem untilSeparator_append {separator : List Char} (isSeparator : separator ∈ separators)
    (words more : List (List Char)) :
    untilSeparator (words ++ separator :: more) = untilSeparator words := by
  induction words with
  | nil => exact if_pos (List.contains_iff_mem.mpr isSeparator)
  | cons word rest ih => simp only [List.cons_append, untilSeparator, ih]

/-- One of the `separators` names no command, unless it is the name in the rule. -/
theorem hitAt?_separator {rule : Rule} {word : Placed} (isSeparator : word.text ∈ separators)
    (other : (Text.lowercase rule.name).toList ∉ separators) (following : List Placed) :
    hitAt? rule word following = none := by
  -- No separator starts with a recipe mark or has a letter.
  have plain : ∀ separator ∈ separators,
      Text.lowercase (String.ofList (separator.dropWhile isRecipePrefix)) =
        String.ofList separator := by
    decide
  rw [hitAt?]
  dsimp only
  rw [plain _ isSeparator, if_neg]
  intro same
  rw [← same, String.toList_ofList] at other
  exact other isSeparator

/-- The first hit among words around one of the `separators` is that before it, or else that behind
it. The induction is on the words before it. -/
theorem firstHit?_append_separator {rule : Rule} {separator : Placed}
    (isSeparator : separator.text ∈ separators)
    (other : (Text.lowercase rule.name).toList ∉ separators) (words more : List Placed) :
    firstHit? rule (words ++ separator :: more) =
      (firstHit? rule words).or (firstHit? rule more) := by
  induction words with
  | nil =>
      have none : firstHit? rule (separator :: more) = firstHit? rule more := by
        rw [firstHit?, hitAt?_separator isSeparator other, Option.none_or]
      exact none
  | cons word following ih =>
      have here :
          hitAt? rule word (following ++ separator :: more) = hitAt? rule word following := by
        simp only [hitAt?, List.map_append, List.map_cons, untilSeparator_append isSeparator]
      rw [List.cons_append, firstHit?, here, ih, ← Option.or_assoc, ← firstHit?]

/-! ## Lines with a separator -/

/-- Each of the `separators` is one word, `IsSolid`. -/
theorem isSolid_of_mem_separators {separator : List Char} (isSeparator : separator ∈ separators) :
    IsSolid separator := by
  have each : ∀ separator ∈ separators, separator ≠ [] ∧ separator.all (!isBlank ·) := by decide
  refine ⟨(each separator isSeparator).1, fun c member => ?_⟩
  simpa using List.all_eq_true.mp (each separator isSeparator).2 c member

/-- The lines `first` and `second` with a blank, the `separator` and a blank between them. -/
def separated (first separator second : List Char) : List Char :=
  first ++ ' ' :: (separator ++ ' ' :: second)

/-- The words of `separated first separator second` are those of the `first` line, the `separator`,
and those of the `second` line, `shift`ed. -/
theorem wordsFrom_separated {separator : List Char} (isSeparator : separator ∈ separators)
    (first second : List Char) :
    Text.wordsFrom 0 (separated first separator second) =
      Text.wordsFrom 0 first ++ ⟨first.length + 1, separator⟩ ::
        (Text.wordsFrom 0 second).map (Placed.shift (first.length + separator.length + 2)) := by
  have blank : isBlank ' ' = true := by decide
  have place :
      0 + first.length + 1 + separator.length + 1 = 0 + (first.length + separator.length + 2) := by
    omega
  have closes : (' ' :: second).head?.all isBlank := blank
  rw [separated, Text.wordsFrom_append_blank blank,
    Text.wordsFrom_append (isSolid_of_mem_separators isSeparator) closes,
    Text.wordsFrom_cons_blank blank, place, Text.wordsFrom_add, Nat.zero_add]

/-- A line has `isComment` exactly if its first character other than white space is `#`. -/
theorem isComment_iff {line : List Char} : isComment line ↔ line.find? (!isBlank ·) = some '#' := by
  rw [isComment, Text.trimStart, beq_iff_eq, List.find?_eq_head?_dropWhile_not]
  simp only [Bool.not_not]

/-- If `first` has not `isComment`, neither has `separated first separator second`. -/
theorem not_isComment_separated {separator : List Char} (isSeparator : separator ∈ separators)
    {first : List Char} (notComment : ¬ isComment first) (second : List Char) :
    ¬ isComment (separated first separator second) := by
  have start : ∀ separator ∈ separators, (separator.find? (!isBlank ·)).any (· ≠ '#') := by decide
  obtain ⟨c, found, ordinary⟩ := (Option.any_eq_true _ _).mp (start separator isSeparator)
  rw [isComment_iff] at notComment ⊢
  have behind : (' ' :: (separator ++ ' ' :: second)).find? (!isBlank ·) = some c := by
    rw [List.find?_cons_of_neg (by decide), List.find?_append, found, Option.some_or]
  rw [separated, List.find?_append, behind]
  -- The first line says so itself, or it is blank and the separator comes first.
  cases own : first.find? (!isBlank ·) with
  | none => simpa using ordinary
  | some d =>
      rw [own] at notComment
      simpa using notComment

/-- The column of a hit stands in its line. -/
theorem column_bounds_of_hazardIn {rule : Rule} {line : List Char} {hit : Hit}
    (found : hazardIn rule line = some hit) : 1 ≤ hit.column ∧ hit.column ≤ line.length + 1 := by
  obtain ⟨_, mention, column⟩ := exists_mention_of_hazardIn found
  have whole := congrArg List.length mention.split_column
  rw [List.length_append] at whole
  rw [column, mention.column_eq]
  omega

/-! ## Commands of a line -/

/-- The commands of a line are judged on their own. Let the two lines be no comments, and the name
in the rule be none of the `separators`.

(1) `hazardIn` the two lines with a separator between them is `hazardIn` the `first` line, or else
`hazardIn` the `second` line, shifted to where that starts.

(2) A hit whose column is in the `first` part is that of the `first` line alone, and a hit behind it
is that of the `second` line alone. -/
theorem hazardIn_separated (rule : Rule) {first separator second : List Char}
    (isSeparator : separator ∈ separators) (other : (Text.lowercase rule.name).toList ∉ separators)
    (firstRuns : ¬ isComment first) (secondRuns : ¬ isComment second) :
    hazardIn rule (separated first separator second) =
      (hazardIn rule first).or
        ((hazardIn rule second).map (Hit.shift (first.length + separator.length + 2))) ∧
    ∀ hit, hazardIn rule (separated first separator second) = some hit →
      (hit.column ≤ first.length + 1 → hazardIn rule first = some hit) ∧
      (first.length + 1 < hit.column → hazardIn rule first = none ∧
        ∃ own, hazardIn rule second = some own ∧
        hit = own.shift (first.length + separator.length + 2)) := by
  -- The words of the whole line are those of both parts, with the separator between them.
  have whole : hazardIn rule (separated first separator second) =
      (hazardIn rule first).or
        ((hazardIn rule second).map (Hit.shift (first.length + separator.length + 2))) := by
    rw [hazardIn, hazardIn, hazardIn, if_neg firstRuns, if_neg secondRuns,
      if_neg (not_isComment_separated isSeparator firstRuns second),
      wordsFrom_separated isSeparator, firstHit?_append_separator isSeparator other,
      firstHit?_shift]
  refine ⟨whole, fun hit found => ?_⟩
  rw [whole, Option.or_eq_some_iff, Option.map_eq_some_iff] at found
  rcases found with early | ⟨none, own, late, rfl⟩
  · have bounds := column_bounds_of_hazardIn early
    exact ⟨fun _ => early, fun beyond => by omega⟩
  · -- A hit of the second part is shifted beyond the first one.
    have bounds := column_bounds_of_hazardIn late
    refine ⟨fun within => ?_, fun _ => ⟨none, own, late, rfl⟩⟩
    dsimp only [Hit.shift] at within
    omega

/-- A flag behind the separator makes no hit of a command before it, but one of the command behind
it. -/
theorem hazardIn_separated_removals :
    hazardIn Rule.standard (separated "rm build".toList "&&".toList "@rm -fr dist".toList) =
      some ⟨"-fr", 14⟩ ∧
    hazardIn Rule.standard (separated "rm build".toList "&&".toList "echo -rf".toList) = none := by
  have notName : (Text.lowercase Rule.standard.name).toList ∉ separators := by decide +kernel
  have isSeparator : "&&".toList ∈ separators := by decide
  have runs : ¬ isComment "rm build".toList := by decide
  have alone : hazardIn Rule.standard "rm build".toList = none := by decide +kernel
  have removal : hazardIn Rule.standard "@rm -fr dist".toList = some ⟨"-fr", 2⟩ := by decide +kernel
  have echo : hazardIn Rule.standard "echo -rf".toList = none := by decide +kernel
  constructor
  · rw [(hazardIn_separated Rule.standard isSeparator notName runs (by decide)).1, alone, removal]
    rfl
  · rw [(hazardIn_separated Rule.standard isSeparator notName runs (by decide)).1, alone, echo]
    rfl

end Makefile

/-! ## Lines further down -/

/-- The same finding in a text with `count` lines put in front. -/
def Finding.down (count : Nat) (finding : Finding) : Finding :=
  ⟨finding.path, ⟨finding.position.line + count, finding.position.column⟩, finding.command,
    finding.message⟩

/-- The lines of `first ++ "\n" ++ second` are those of both texts. -/
theorem Text.lines_append (first second : String) :
    Text.lines (first ++ "\n" ++ second) = Text.lines first ++ Text.lines second := by
  have letters : (first ++ "\n" ++ second).toList = first.toList ++ '\n' :: second.toList := by
    simp
  rw [Text.lines, letters, List.splitOn_append_cons_self]
  rfl

/-- A text has one line more than newlines. -/
theorem Text.length_lines (text : String) :
    (Text.lines text).length = text.toList.count '\n' + 1 := by
  rw [Text.lines]
  induction text.toList with
  | nil => rfl
  | cons c rest ih =>
      rw [List.splitOn_cons_eq_if_modifyHead, List.count_cons]
      split
      · rw [List.length_cons, ih]
      · rw [List.length_modifyHead, ih, Nat.add_zero]

namespace Scan

/-- The finding on the `line` with this `number`, if there is one. -/
def findingOn? (rule : Rule) (path : String) (number : Nat) (line : List Char) : Option Finding :=
  (Makefile.hazardIn rule line).map fun hit =>
    ⟨path, ⟨number, hit.column⟩, rule.name ++ " " ++ hit.flag, ""⟩

/-- The findings in lines are that on the first one, if any, and those in the `rest`. -/
theorem scanLines_cons (rule : Rule) (path : String) (number : Nat) (line : List Char)
    (rest : List (List Char)) :
    scanLines rule path number (line :: rest) =
      (findingOn? rule path number line).toList ++ scanLines rule path (number + 1) rest := by
  rw [scanLines, findingOn?, Option.toList_map]

/-- Lines that are numbered from `number + count` on have their findings moved `down` by `count`. -/
theorem scanLines_add (rule : Rule) (path : String) (number count : Nat)
    (lines : List (List Char)) :
    scanLines rule path (number + count) lines =
      (scanLines rule path number lines).map (Finding.down count) := by
  induction lines generalizing number with
  | nil => rfl
  | cons line rest ih =>
      have here : findingOn? rule path (number + count) line =
          (findingOn? rule path number line).map (Finding.down count) := by
        rw [findingOn?, findingOn?, Option.map_map]
        rfl
      rw [scanLines_cons, scanLines_cons, List.map_append, here, Option.toList_map,
        Nat.add_right_comm, ih]

/-- The findings in `lines ++ more` are those in `lines` and, numbered on, those in `more`. -/
theorem scanLines_append (rule : Rule) (path : String) (number : Nat)
    (lines more : List (List Char)) :
    scanLines rule path number (lines ++ more) =
      scanLines rule path number lines ++ scanLines rule path (number + lines.length) more := by
  induction lines generalizing number with
  | nil => rfl
  | cons line rest ih =>
      rw [List.cons_append, scanLines_cons, scanLines_cons, ih, List.append_assoc, List.length_cons,
        Nat.add_right_comm, Nat.add_assoc]

/-- The findings in lines do not stand below them. -/
theorem line_lt_of_mem_scanLines {rule : Rule} {path : String} {number : Nat}
    {lines : List (List Char)} {finding : Finding}
    (member : finding ∈ scanLines rule path number lines) :
    finding.position.line < number + lines.length := by
  induction lines generalizing number with
  | nil => cases member
  | cons line rest ih =>
      rw [List.length_cons]
      rw [scanLines_cons, List.mem_append, Option.mem_toList] at member
      rcases member with here | later
      · obtain ⟨hit, _, rfl⟩ := Option.map_eq_some_iff.mp here
        dsimp only
        omega
      · have := ih later
        omega

/-! ## Lines of a Makefile -/

/-- A Makefile that removes a directory. -/
def cleanText : String :=
  "clean:\n\trm -rf build"

/-- The finding in `cleanText`. -/
def cleanFinding : Finding :=
  ⟨"Makefile", ⟨2, 2⟩, "rm -rf", ""⟩

/-- Makefiles are scanned line by line.

(1) The findings in `first ++ "\n" ++ second` are those in `first` and those in `second`, moved
`down` by the number of lines of `first`.

(2) If one line among others is replaced, the findings `above` and `below` it stay the same. On the
line itself there is what `findingOn?` gives: at most one finding, that depends on the line and its
number only. -/
theorem scanMakefile_by_lines (rules : RuleSet) (path : String) :
    (∀ first second, scanMakefile rules path (first ++ "\n" ++ second) =
      scanMakefile rules path first ++
        (scanMakefile rules path second).map (Finding.down (first.toList.count '\n' + 1))) ∧
    ∀ before after : List (List Char), ∃ above below : List Finding,
      (∀ finding ∈ above, finding.position.line ≤ before.length) ∧
      (∀ finding ∈ below, before.length + 1 < finding.position.line) ∧
      ∀ line content, Text.lines content = before ++ line :: after →
        scanMakefile rules path content =
          above ++ (findingOn? rules.command path (before.length + 1) line).toList ++ below := by
  constructor
  · intro first second
    rw [scanMakefile, scanMakefile, scanMakefile, Text.lines_append, scanLines_append,
      scanLines_add, Text.length_lines]
  · intro before after
    -- The lines before and after are scanned on their own, with their own numbers.
    refine ⟨scanLines rules.command path 1 before,
      scanLines rules.command path (before.length + 2) after, ?_, ?_, ?_⟩
    · intro finding member
      have := line_lt_of_mem_scanLines member
      omega
    · intro finding member
      have := le_line_of_mem_scanLines member
      omega
    · intro line content lines
      rw [scanMakefile, lines, scanLines_append, scanLines_cons, List.append_assoc, Nat.add_comm 1]

/-- Below itself, `cleanText` has the same finding again; with another command on its second line it
has none. -/
theorem scanMakefile_by_lines_clean :
    scanMakefile .standard "Makefile" (cleanText ++ "\n" ++ cleanText) =
      [cleanFinding, cleanFinding.down 2] ∧
    Text.lines cleanText = ["clean:".toList] ++ "\trm -rf build".toList :: [] ∧
    Text.lines "clean:\n\techo" = ["clean:".toList] ++ "\techo".toList :: [] ∧
    scanMakefile .standard "Makefile" "clean:\n\techo" = [] := by
  have found : scanMakefile .standard "Makefile" cleanText = [cleanFinding] := by decide +kernel
  have lines : Text.lines cleanText = ["clean:".toList] ++ "\trm -rf build".toList :: [] := by
    decide
  have edited : Text.lines "clean:\n\techo" = ["clean:".toList] ++ "\techo".toList :: [] := by
    decide
  obtain ⟨joined, changed⟩ := scanMakefile_by_lines .standard "Makefile"
  obtain ⟨above, below, _, _, each⟩ := changed ["clean:".toList] []
  refine ⟨?_, lines, edited, ?_⟩
  · rw [joined, found]
    decide
  · have here :
        findingOn? Rule.standard "Makefile" 2 "\trm -rf build".toList = some cleanFinding := by
      decide
    have none : findingOn? Rule.standard "Makefile" 2 "\techo".toList = none := by decide +kernel
    -- The one finding stands on the line that is changed.
    have only :
        above ++ (findingOn? Rule.standard "Makefile" 2 "\trm -rf build".toList).toList ++ below =
        [cleanFinding] := (each _ _ lines).symm.trans found
    have size := congrArg List.length only
    rw [here, List.length_append, List.length_append, Option.toList_some,
      List.length_singleton] at size
    have noneAbove : above = [] := List.eq_nil_of_length_eq_zero (by omega)
    have noneBelow : below = [] := List.eq_nil_of_length_eq_zero (by omega)
    rw [each _ _ edited, noneAbove, noneBelow]
    exact congrArg (fun finding => [] ++ finding.toList ++ []) none

end Scan

end Footgun
