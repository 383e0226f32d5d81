import Footgun.Proofs.Refinement
import Footgun.Proofs.Samples
import Mathlib.Algebra.Order.BigOperators.Group.List
import Mathlib.Algebra.Order.Group.Nat

/-! # Words that mask others

The path policy looks at the words behind a hazardous flag by their texts alone. It stops at the
first word that is an unsafe path or carries an expansion, and a word that carries one is resolved
through the table even if it is written out, as `'${x}'` is. Such a word masks what follows it. Main
definitions:

* `carriesExpansion`, `namesUnsafePath` — the two properties of a word at which the search stops;
* `Unmasked` — every word that carries an expansion stands behind an unsafe path;
* `Scan.Reported` — the path policy reports a command, given a table.

The main statement is `Scan.reported_iff_of_unmasked`: if no word masks another, a command is
reported exactly for an unsafe path among its words, whatever the table; and only then is the table
without influence. -/

namespace Footgun

open Syntax (Tree)

/-! ## Where the search stops -/

/-- Whether a word carries an expansion, the white space around it left out. -/
def carriesExpansion (word : String) : Bool :=
  hasExpansion (Text.trim word).toList

/-- Whether a word is an unsafe path, the white space around it left out. -/
def namesUnsafePath (unsafePaths : List String) (word : String) : Bool :=
  unsafePaths.contains (Text.trim word)

/-- Whether the search for one of the `unsafePaths` stops at `word`. -/
def stopsSearch (unsafePaths : List String) (word : String) : Bool :=
  carriesExpansion word || namesUnsafePath unsafePaths word

/-- The verdict on a `word` at which the search stops. -/
def verdictOn (table : Bindings) (unsafePaths : List String) (word : String) : Option PathHazard :=
  if carriesExpansion word then classifyExpansion table unsafePaths (Text.trim word)
  else some ⟨.unsafePath, Text.trim word, none⟩

variable {table : Bindings} {unsafePaths words : List String}

/-- The verdict `classifyPaths` on words is `verdictOn` the first one with `stopsSearch`. -/
theorem classifyPaths_eq (table : Bindings) (unsafePaths words : List String) :
    classifyPaths table unsafePaths words =
      (words.find? (stopsSearch unsafePaths)).bind (verdictOn table unsafePaths) := by
  induction words with
  | nil => rfl
  | cons word rest ih =>
      rw [classifyPaths]
      -- An expansion is looked at before the word is compared with the unsafe paths.
      by_cases expansion : carriesExpansion word
      · have stops : stopsSearch unsafePaths word = true := by simp [stopsSearch, expansion]
        rw [List.find?_cons_of_pos stops, Option.bind_some, verdictOn, if_pos expansion]
        exact if_pos expansion
      · by_cases isUnsafe : namesUnsafePath unsafePaths word
        · have stops : stopsSearch unsafePaths word = true := by simp [stopsSearch, isUnsafe]
          rw [List.find?_cons_of_pos stops, Option.bind_some, verdictOn, if_neg expansion]
          exact (if_neg expansion).trans (if_pos isUnsafe)
        · have passes : ¬ stopsSearch unsafePaths word = true := by
            simp [stopsSearch, expansion, isUnsafe]
          rw [List.find?_cons_of_neg passes, ← ih]
          exact (if_neg expansion).trans (if_neg isUnsafe)

/-- No word masks another: every word that carries an expansion (`carriesExpansion`) stands behind
an unsafe path (`namesUnsafePath`). -/
def Unmasked (unsafePaths words : List String) : Prop :=
  ∀ before word after, words = before ++ word :: after → carriesExpansion word →
    ∃ earlier ∈ before, namesUnsafePath unsafePaths earlier

/-- Words are `Unmasked` exactly if the first one with `stopsSearch` has no expansion. -/
theorem unmasked_iff :
    Unmasked unsafePaths words ↔
      ∀ word, words.find? (stopsSearch unsafePaths) = some word →
        carriesExpansion word = false := by
  constructor
  · intro unmasked word found
    obtain ⟨_, before, after, split, passed⟩ := List.find?_eq_some_iff_append.mp found
    by_contra expansion
    rw [Bool.not_eq_false] at expansion
    obtain ⟨earlier, isEarlier, isUnsafe⟩ := unmasked before word after split expansion
    have stops : stopsSearch unsafePaths earlier = true := by simp [stopsSearch, isUnsafe]
    have passes := passed earlier isEarlier
    rw [stops] at passes
    cases passes
  · rintro plain before word after rfl expansion
    have stops : stopsSearch unsafePaths word = true := by simp [stopsSearch, expansion]
    -- The search stops before the word, or else at it.
    cases found : before.find? (stopsSearch unsafePaths) with
    | none =>
        have atWord :=
          plain word (by rw [List.find?_append, found, List.find?_cons_of_pos stops]; rfl)
        rw [expansion] at atWord
        cases atWord
    | some earlier =>
        have atEarlier := plain earlier (by rw [List.find?_append, found]; rfl)
        refine ⟨earlier, List.mem_of_find?_eq_some found, ?_⟩
        have stopped := List.find?_some found
        rwa [stopsSearch, atEarlier, Bool.false_or] at stopped

/-- Among words that are `Unmasked` there is a hazard exactly if one of them has
`namesUnsafePath`. -/
theorem isSome_classifyPaths_iff (unmasked : Unmasked unsafePaths words) (table : Bindings) :
    (classifyPaths table unsafePaths words).isSome ↔
      ∃ word ∈ words, namesUnsafePath unsafePaths word := by
  rw [classifyPaths_eq]
  cases found : words.find? (stopsSearch unsafePaths) with
  | none =>
      rw [List.find?_eq_none] at found
      constructor
      · intro there
        cases there
      · rintro ⟨word, member, isUnsafe⟩
        exact absurd (by simp [stopsSearch, isUnsafe]) (found word member)
  | some word =>
      -- The search stops at this word, and not for an expansion.
      have plain := unmasked_iff.mp unmasked word found
      have stopped := List.find?_some found
      rw [stopsSearch, plain, Bool.false_or] at stopped
      constructor
      · intro _
        exact ⟨word, List.mem_of_find?_eq_some found, stopped⟩
      · intro _
        simp [verdictOn, plain]

/-! ## Tables that decide either way -/

/-- A text of letters without blanks is its own trimmed form. -/
theorem trim_replicate (count : Nat) :
    Text.trim (String.ofList (List.replicate count 'a')) =
      String.ofList (List.replicate count 'a') := by
  have letter : Text.isBlank 'a' = false := by decide
  have kept :
      ∀ count, (List.replicate count 'a').dropWhile Text.isBlank = List.replicate count 'a' := by
    intro count
    cases count with
    | zero => rfl
    | succ count => rw [List.replicate_succ, List.dropWhile_cons_of_neg (by simp [letter])]
  rw [Text.trim, String.toList_ofList, Text.trimStart, kept, Text.trimEnd,
    List.reverse_replicate, kept, List.reverse_replicate]

/-- There is a `value` that is no unsafe path, whatever is written behind it. -/
theorem exists_safe_value (unsafePaths : List String) :
    ∃ value, ∀ rest, Text.trim value ++ rest ∉ unsafePaths := by
  -- A text that is longer than all unsafe paths together.
  let bound := (unsafePaths.map String.length).sum
  refine ⟨String.ofList (List.replicate (bound + 1) 'a'), fun rest member => ?_⟩
  rw [trim_replicate] at member
  have le : (String.ofList (List.replicate (bound + 1) 'a') ++ rest).length ≤ bound :=
    List.le_sum_of_mem (List.mem_map_of_mem member)
  rw [String.length_append, String.length_ofList, List.length_replicate] at le
  omega

/-- The value of its variable can make an expansion an unsafe path. -/
theorem exists_isSome_classifyExpansion {path : String} (member : path ∈ unsafePaths)
    (trimmed : Text.trim path = path) (word : String) :
    ∃ table, (classifyExpansion table unsafePaths word).isSome := by
  refine ⟨⟨[(String.ofList (splitVariable word.toList).1, path)]⟩, ?_⟩
  simp [classifyExpansion, Bindings.get?, trimmed, member]

/-- The value of its variable can make an expansion no unsafe path. -/
theorem exists_classifyExpansion_eq_none (unsafePaths : List String) (word : String) :
    ∃ table, classifyExpansion table unsafePaths word = none := by
  obtain ⟨value, safe⟩ := exists_safe_value unsafePaths
  have alone : Text.trim value ∉ unsafePaths := by
    have nothing := safe ""
    rwa [String.append_empty] at nothing
  refine ⟨⟨[(String.ofList (splitVariable word.toList).1, value)]⟩, ?_⟩
  simp [classifyExpansion, Bindings.get?, safe, alone]

/-- If no table has an influence on the verdict, the words are `Unmasked`. There must be an unsafe
path without white space around it, since no other one can be the value of a variable. -/
theorem unmasked_of_independent (ordinary : ∃ path ∈ unsafePaths, Text.trim path = path)
    (independent : ∀ first second : Bindings, (classifyPaths first unsafePaths words).isSome ↔
      (classifyPaths second unsafePaths words).isSome) : Unmasked unsafePaths words := by
  refine unmasked_iff.mpr fun word found => ?_
  by_contra expansion
  rw [Bool.not_eq_false] at expansion
  -- The search stops at the word for every table, so its verdict is that on the expansion.
  have verdict : ∀ table, classifyPaths table unsafePaths words =
      classifyExpansion table unsafePaths (Text.trim word) := by
    intro table
    rw [classifyPaths_eq, found, Option.bind_some, verdictOn, if_pos expansion]
  obtain ⟨path, member, trimmed⟩ := ordinary
  obtain ⟨first, hazardous⟩ := exists_isSome_classifyExpansion member trimmed (Text.trim word)
  obtain ⟨second, harmless⟩ := exists_classifyExpansion_eq_none unsafePaths (Text.trim word)
  have both := independent first second
  rw [verdict, verdict, harmless] at both
  exact absurd (both.mp hazardous) (by simp)

namespace Scan

/-! ## Commands -/

/-- The words of `command` behind the flag that was `found`. -/
def wordsBehind (command : Command) (found : FlagMatch) : List Word :=
  command.arguments.drop (found.index + 1)

/-- The path policy reports `command`, in a script with these `commands` and this `table`. -/
def Reported (rules : RuleSet) (commands : List Command) (command : Command) (table : Bindings) :
    Prop :=
  command ∈ (hazards rules ⟨commands, table⟩).map (·.1)

/-- A command with a flag is `Reported` exactly if `classifyPaths` finds a hazard in the words
behind it. -/
theorem reported_iff {rules : RuleSet} {commands : List Command} {command : Command}
    {found : FlagMatch} (member : command ∈ commands)
    (flagged : flagOf? rules.command command = some found) (table : Bindings) :
    Reported rules commands command table ↔
      (classifyPaths table rules.unsafePaths
        ((wordsBehind command found).map (·.text))).isSome := by
  rw [Reported, map_fst_hazards, List.mem_filter, hazardOf?, flagged, wordsBehind, List.map_drop]
  exact and_iff_right member

/-! ## A word in single quotes -/

/-- A script that removes a directory with a strange name, and the root directory. -/
def maskedText : String :=
  "rm -rf '$\x7bx\x7d' /\n"

/-- The tree of `maskedText`. -/
def maskedTree : Tree :=
  branch "program" 0 16 "" [
    branch "command" 0 15 "" [
      branch "command_name" 0 2 "name" [branch "word" 0 2 "" []],
      branch "word" 3 6 "argument" [], branch "raw_string" 7 13 "argument" [],
      branch "word" 14 15 "argument" []]]

/-- The command of `maskedText`. -/
def maskedCommand : Command :=
  ⟨"rm", [⟨"-rf", .literal⟩, ⟨"$\x7bx\x7d", .literal⟩, ⟨"/", .literal⟩], ⟨1, 1⟩⟩

/-- The command of `maskedText` with the directories the other way round. -/
def unmaskedCommand : Command :=
  ⟨"rm", [⟨"-rf", .literal⟩, ⟨"/", .literal⟩, ⟨"$\x7bx\x7d", .literal⟩], ⟨1, 1⟩⟩

/-! ## Reported commands -/

/-- Which words decide whether a command with a hazardous flag is `Reported`. Their origin plays no
part.

(1) If the words behind the flag are `Unmasked`, the command is `Reported` exactly if one of them
has `namesUnsafePath`, whatever the table.

(2) If any two tables agree on whether the command is `Reported`, the words are `Unmasked`, provided
that some unsafe path has no white space around it. -/
theorem reported_iff_of_unmasked (rules : RuleSet) {commands : List Command} {command : Command}
    {found : FlagMatch} (member : command ∈ commands)
    (flagged : flagOf? rules.command command = some found) :
    (Unmasked rules.unsafePaths ((wordsBehind command found).map (·.text)) →
      ∀ table, Reported rules commands command table ↔
        ∃ word ∈ wordsBehind command found, namesUnsafePath rules.unsafePaths word.text) ∧
    ((∃ path ∈ rules.unsafePaths, Text.trim path = path) →
      (∀ first second, Reported rules commands command first ↔
        Reported rules commands command second) →
      Unmasked rules.unsafePaths ((wordsBehind command found).map (·.text))) := by
  constructor
  · intro unmasked table
    rw [reported_iff member flagged, isSome_classifyPaths_iff unmasked]
    simp
  · intro ordinary independent
    refine unmasked_of_independent ordinary fun first second => ?_
    have both := independent first second
    rwa [reported_iff member flagged, reported_iff member flagged] at both

/-- In `unmaskedCommand`, an unsafe path before a word with an expansion is `Reported`, whatever the
table. -/
theorem reported_iff_of_unmasked_root :
    flagOf? RuleSet.standard.command unmaskedCommand = some ⟨"-rf", 0⟩ ∧
    (∃ path ∈ RuleSet.standard.unsafePaths, Text.trim path = path) ∧
    Unmasked RuleSet.standard.unsafePaths
      ((wordsBehind unmaskedCommand ⟨"-rf", 0⟩).map (·.text)) ∧
    ∀ table, Reported .standard [unmaskedCommand] unmaskedCommand table := by
  have flagged : flagOf? RuleSet.standard.command unmaskedCommand = some ⟨"-rf", 0⟩ := by decide
  have ordinary : ∃ path ∈ RuleSet.standard.unsafePaths, Text.trim path = path := by decide
  have decides :=
    reported_iff_of_unmasked .standard (List.mem_singleton_self unmaskedCommand) flagged
  have unmasked : Unmasked RuleSet.standard.unsafePaths
      ((wordsBehind unmaskedCommand ⟨"-rf", 0⟩).map (·.text)) := by
    refine unmasked_iff.mpr fun word found => ?_
    have first : ((wordsBehind unmaskedCommand ⟨"-rf", 0⟩).map (·.text)).find?
        (stopsSearch RuleSet.standard.unsafePaths) = some "/" := by decide
    rw [first] at found
    cases found
    decide
  have reported : ∀ table, Reported .standard [unmaskedCommand] unmaskedCommand table :=
    fun table => (decides.1 unmasked table).mpr (by decide)
  exact ⟨flagged, ordinary, decides.2 ordinary fun first second =>
    iff_of_true (reported first) (reported second), reported⟩

/-- In `maskedText`, a word in single quotes masks an unsafe path: every word of `maskedCommand` is
written out, one of them is the root directory, and `scanShellPaths` finds nothing. -/
theorem scanShellPaths_masked :
    ∃ script, readShell ⟨fun _ _ => maskedTree⟩ "a.sh" maskedText = .ok script ∧
      maskedCommand ∈ script.commands ∧
      flagOf? RuleSet.standard.command maskedCommand = some ⟨"-rf", 0⟩ ∧
      (∀ word ∈ wordsBehind maskedCommand ⟨"-rf", 0⟩, word.origin = .literal) ∧
      (∃ word ∈ wordsBehind maskedCommand ⟨"-rf", 0⟩,
        namesUnsafePath RuleSet.standard.unsafePaths word.text) ∧
      scanShellPaths ⟨fun _ _ => maskedTree⟩ .standard "a.sh" maskedText = .ok ([], []) := by
  have commands : (readShell ⟨fun _ _ => maskedTree⟩ "a.sh" maskedText).toOption.map (·.commands) =
      some [maskedCommand] := by decide +kernel
  obtain ⟨script, read, only⟩ := Option.map_eq_some_iff.mp commands
  refine ⟨script, eq_ok_of_toOption_eq_some read, by rw [only]; exact List.mem_singleton_self _, ?_⟩
  exact ⟨by decide, by decide, by decide,
    eq_ok_of_toOption_eq_some (by decide +kernel)⟩

end Scan

end Footgun
