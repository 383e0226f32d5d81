import Footgun.Proofs.FlagSearch
import Footgun.Proofs.PathVerdict
import Footgun.Proofs.WiderRules

/-! # More flags under the path policy

With more hazardous flags the search for a flag may stop at an earlier word, and the path policy
then judges the words between the two flags as well. A word with an expansion among them can decide
that there is no hazard, before the words behind the old flag are reached. Main definitions:

* `wordsBetween` — the words behind one index, up to another;
* `Masking` — some words have an expansion that leads to no unsafe path, and nothing that decides
  before it;
* `Scan.Hidden` — with more flags, the words that a command has between its flags are masking;
* `Scan.KeepsUnhidden` — a scan reports what another one reports, apart from exactly the hidden
  commands.

The main statement is `Scan.reported_with_more_flags`. -/

namespace Footgun

open Syntax (Parser Tree)

/-! ## Earlier flags -/

/-- From `flags ⊆ more` follows that an index with `CompletesFlag` for `flags` has it for `more`. -/
theorem CompletesFlag.of_subset {flags more words : List String} {index : Nat}
    (subset : flags ⊆ more) (completes : CompletesFlag flags words index) :
    CompletesFlag more words index := by
  obtain ⟨written, alone | joined⟩ := completes
  · exact ⟨written, .inl (subset alone)⟩
  · exact ⟨written, .inr (subset joined)⟩

/-- From `flags ⊆ more` follows that `matchFlags` finds one of `more` at the same index or
earlier. -/
theorem exists_matchFlags_of_subset {flags more words : List String} {found : FlagMatch}
    (subset : flags ⊆ more) (first : matchFlags words flags = some found) :
    ∃ earlier, matchFlags words more = some earlier ∧ earlier.index ≤ found.index := by
  obtain ⟨⟨completes, _⟩, _⟩ := matchFlags_eq_some_iff.mp first
  have completesMore := completes.of_subset subset
  cases result : matchFlags words more with
  | none => exact absurd completesMore (matchFlags_eq_none_iff.mp result found.index)
  | some earlier =>
      obtain ⟨⟨_, least⟩, _⟩ := matchFlags_eq_some_iff.mp result
      refine ⟨earlier, rfl, ?_⟩
      by_contra later
      exact least found.index (Nat.lt_of_not_le later) completesMore

/-- The words behind the index `first`, up to the index `last` and with it. -/
def wordsBetween (words : List String) (first last : Nat) : List String :=
  (words.drop (first + 1)).take (last - first)

/-- The words behind `first` are `wordsBetween words first last`, and those behind `last`. -/
theorem drop_eq_wordsBetween_append (words : List String) {first last : Nat} (le : first ≤ last) :
    words.drop (first + 1) = wordsBetween words first last ++ words.drop (last + 1) := by
  have behind : (words.drop (first + 1)).drop (last - first) = words.drop (last + 1) := by
    rw [List.drop_drop]
    congr 1
    omega
  rw [wordsBetween, ← behind, List.take_append_drop]

/-! ## Masking words -/

/-- One of the `words` has an expansion that leads to no unsafe path, and no word before it is an
unsafe path or has an expansion. -/
def Masking (table : Bindings) (unsafePaths words : List String) : Prop :=
  ∃ before word after, words = before ++ word :: after ∧
    (∀ earlier ∈ before, ¬ HoldsExpansion earlier ∧ Text.trim earlier ∉ unsafePaths) ∧
    HoldsExpansion word ∧ ∀ hazard, ¬ Resolves table unsafePaths word hazard

section Masking

variable {table : Bindings} {unsafePaths words : List String}

/-- The search stops at the words with `HoldsExpansion` and at unsafe paths. -/
theorem stopsSearch_iff {word : String} :
    stopsSearch unsafePaths word = true ↔ HoldsExpansion word ∨ Text.trim word ∈ unsafePaths := by
  rw [stopsSearch, Bool.or_eq_true, carriesExpansion_iff, namesUnsafePath, List.contains_iff_mem]

/-- Words are `Masking` exactly if the search stops at one of them and finds no hazard. -/
theorem masking_iff :
    Masking table unsafePaths words ↔
      (∃ word ∈ words, stopsSearch unsafePaths word) ∧
      classifyPaths table unsafePaths words = none := by
  constructor
  · rintro ⟨before, word, after, rfl, passed, holds, leadsNowhere⟩
    have stops : stopsSearch unsafePaths word := stopsSearch_iff.mpr (.inl holds)
    have passes : ∀ earlier ∈ before, ¬ stopsSearch unsafePaths earlier := by
      intro earlier member stopped
      rcases stopsSearch_iff.mp stopped with expansion | isUnsafe
      · exact (passed earlier member).1 expansion
      · exact (passed earlier member).2 isUnsafe
    refine ⟨⟨word, by simp, stops⟩, ?_⟩
    rw [classifyPaths_append_of_passes table passes, classifyPaths_eq, List.find?_cons_of_pos stops,
      Option.bind_some, verdictOn, if_pos ((carriesExpansion_iff word).mpr holds),
      Option.eq_none_iff_forall_ne_some]
    intro hazard found
    exact leadsNowhere hazard (classifyExpansion_eq_some_iff.mp found)
  · rintro ⟨stopped, nothing⟩
    obtain ⟨word, found⟩ := Option.isSome_iff_exists.mp (List.find?_isSome.mpr stopped)
    rw [classifyPaths_eq, found, Option.bind_some, verdictOn] at nothing
    obtain ⟨_, before, after, split, passed⟩ := List.find?_eq_some_iff_append.mp found
    -- The search stops without a hazard, and an unsafe path would be one.
    have expansion : carriesExpansion word := by
      by_contra plain
      rw [if_neg plain] at nothing
      cases nothing
    rw [if_pos expansion] at nothing
    refine ⟨before, word, after, split, ?_, (carriesExpansion_iff word).mp expansion, ?_⟩
    · intro earlier member
      have passes : ¬ stopsSearch unsafePaths earlier := by simpa using passed earlier member
      rw [stopsSearch_iff, not_or] at passes
      exact passes
    · intro hazard resolves
      rw [classifyExpansion_eq_some_iff.mpr resolves] at nothing
      cases nothing

instance (table : Bindings) (unsafePaths : List String) :
    DecidablePred (Masking table unsafePaths) := fun _ =>
  decidable_of_iff _ masking_iff.symm

/-- If there is a hazard in the words `behind`, there is one with `words` in front exactly if these
are not `Masking`. -/
theorem isSome_classifyPaths_append_iff {behind : List String}
    (hazardous : (classifyPaths table unsafePaths behind).isSome) :
    (classifyPaths table unsafePaths (words ++ behind)).isSome ↔
      ¬ Masking table unsafePaths words := by
  rw [masking_iff]
  by_cases stopped : ∃ word ∈ words, stopsSearch unsafePaths word
  · rw [classifyPaths_append_of_stops table stopped, Option.isSome_iff_ne_none]
    simp only [stopped, true_and, ne_eq]
  · have passes : ∀ word ∈ words, ¬ stopsSearch unsafePaths word := by
      intro word member stops
      exact stopped ⟨word, member, stops⟩
    rw [classifyPaths_append_of_passes table passes]
    simp only [hazardous, stopped, false_and, not_false_eq_true]

end Masking

namespace Scan

/-! ## Hidden commands -/

/-- The `command` has flags under both rules, and the words behind the one that `wider` finds, up to
the one that `rules` find, are `Masking`. -/
def Hidden (rules wider : RuleSet) (table : Bindings) (command : Command) : Prop :=
  ∃ found ∈ flagOf? rules.command command, ∃ earlier ∈ flagOf? wider.command command,
    Masking table rules.unsafePaths (wordsBetween command.texts earlier.index found.index)

instance (rules wider : RuleSet) (table : Bindings) : DecidablePred (Hidden rules wider table) :=
  fun command => inferInstanceAs (Decidable
    (∃ found ∈ flagOf? rules.command command, ∃ earlier ∈ flagOf? wider.command command,
      Masking table rules.unsafePaths (wordsBetween command.texts earlier.index found.index)))

/-- The commands of `script` that the path policy reports: those among its `hazards`. -/
def reportedCommands (rules : RuleSet) (script : Script) : List Command :=
  (hazards rules script).map (·.1)

variable {rules wider : RuleSet}

/-- If `rules.WidensFlags wider`, a flag that `rules` finds on a command is found by `wider` at the
same index or earlier. -/
theorem exists_flagOf?_of_widensFlags (widens : rules.WidensFlags wider) {command : Command}
    {found : FlagMatch} (flagged : flagOf? rules.command command = some found) :
    ∃ earlier, flagOf? wider.command command = some earlier ∧ earlier.index ≤ found.index := by
  have named : wider.command.names command.name = rules.command.names command.name := by
    rw [Rule.names, Rule.names, widens.name]
  rw [flagOf?, Option.ite_none_right_eq_some] at flagged
  obtain ⟨about, first⟩ := flagged
  rw [flagOf?, named, if_pos about]
  exact exists_matchFlags_of_subset widens.flags first

/-- If `rules.WidensFlags wider`, a command with a hazard by `rules` has one by `wider` exactly if
it is not `Hidden`. -/
theorem isSome_hazardOf?_iff_of_widensFlags (widens : rules.WidensFlags wider) {table : Bindings}
    {command : Command} (hazardous : (hazardOf? rules table command).isSome) :
    (hazardOf? wider table command).isSome ↔ ¬ Hidden rules wider table command := by
  obtain ⟨found, flagged⟩ := Option.isSome_iff_exists.mp (isSome_flagOf?_of_hazardOf? hazardous)
  obtain ⟨earlier, flaggedMore, le⟩ := exists_flagOf?_of_widensFlags widens flagged
  have hidden_iff : Hidden rules wider table command ↔
      Masking table rules.unsafePaths (wordsBetween command.texts earlier.index found.index) := by
    simp [Hidden, flagged, flaggedMore]
  rw [hazardOf?, flagged] at hazardous
  rw [hazardOf?, flaggedMore, hidden_iff, widens.unsafePaths]
  -- Both rule sets judge words up to the last one; the wider one starts with the words between the
  -- flags.
  change (classifyPaths table rules.unsafePaths (command.texts.drop (earlier.index + 1))).isSome ↔ _
  rw [drop_eq_wordsBetween_append command.texts le]
  exact isSome_classifyPaths_append_iff hazardous

/-- The `reportedCommands` of a script are its commands with a hazard. -/
theorem mem_reportedCommands_iff {script : Script} {command : Command} :
    command ∈ reportedCommands rules script ↔
      command ∈ script.commands ∧ (hazardOf? rules script.bindings command).isSome := by
  rw [reportedCommands, map_fst_hazards, List.mem_filter]

/-- If `rules.WidensFlags wider`, the `reportedCommands` that are not `Hidden` are reported by
`wider` in the same order. -/
theorem filter_reportedCommands_sublist (widens : rules.WidensFlags wider) (script : Script) :
    ((reportedCommands rules script).filter (¬ Hidden rules wider script.bindings ·)).Sublist
      (reportedCommands wider script) := by
  rw [reportedCommands, reportedCommands, map_fst_hazards, map_fst_hazards, List.filter_filter]
  refine List.monotone_filter_right _ fun command unhidden => ?_
  rw [Bool.and_eq_true, decide_eq_true_eq] at unhidden
  exact (isSome_hazardOf?_iff_of_widensFlags widens unhidden.2).mpr unhidden.1

/-! ## Scans -/

/-- The `scan` by `wider` reports what the `other` scan by `rules` reports, apart from exactly the
`Hidden` commands. Both fail alike; or both report commands of the same script, where a command that
the other one reports is reported if it is not `Hidden`, and only then, in the same order and with
the same repetitions. -/
def KeepsUnhidden (rules wider : RuleSet) (read : Except ScanError Script)
    (other scan : Except ScanError Findings) : Prop :=
  (∃ error, other = .error error ∧ scan = .error error) ∨
    ∃ script few many, read = .ok script ∧ other = .ok few ∧ scan = .ok many ∧
      few.1.map (·.position) = (reportedCommands rules script).map (·.position) ∧
      many.1.map (·.position) = (reportedCommands wider script).map (·.position) ∧
      (∀ command ∈ reportedCommands rules script,
        command ∈ reportedCommands wider script ↔ ¬ Hidden rules wider script.bindings command) ∧
      (((reportedCommands rules script).filter (¬ Hidden rules wider script.bindings ·)).map
        (·.position)).Sublist (many.1.map (·.position))

/-- The positions that `pathPolicy` reports are those of the `reportedCommands`. -/
theorem positions_pathPolicy_eq (rules : RuleSet) (path : String) (script : Script) :
    (pathPolicy rules path script).1.map (·.position) =
      (reportedCommands rules script).map (·.position) := by
  rw [positions_pathPolicy, reportedCommands, map_fst_hazards]

/-- If `rules.WidensFlags wider`, two scans of what is `read` have `KeepsUnhidden`. -/
theorem keepsUnhidden_map (widens : rules.WidensFlags wider) (path : String)
    (read : Except ScanError Script) :
    KeepsUnhidden rules wider read (read.map (pathPolicy rules path))
      (read.map (pathPolicy wider path)) := by
  cases read with
  | error error => exact .inl ⟨error, rfl, rfl⟩
  | ok script =>
      refine .inr ⟨script, pathPolicy rules path script, pathPolicy wider path script, rfl,
        rfl, rfl, positions_pathPolicy_eq rules path script,
          positions_pathPolicy_eq wider path script, ?_, ?_⟩
      · intro command reported
        obtain ⟨member, hazardous⟩ := mem_reportedCommands_iff.mp reported
        rw [mem_reportedCommands_iff, ← isSome_hazardOf?_iff_of_widensFlags widens hazardous]
        exact and_iff_right member
      · rw [positions_pathPolicy_eq]
        exact (filter_reportedCommands_sublist widens script).map _

/-! ## A removal with a variable before the flag -/

/-- A script that removes the root directory twice, the second time with a variable before the
flag. -/
def variableText : String :=
  "rm -v a -rf /\nrm -v $d -rf /\n"

/-- The tree of `variableText`. -/
def variableTree : Tree :=
  branch "program" 0 29 "" [
    branch "command" 0 13 "" [
      branch "command_name" 0 2 "name" [branch "word" 0 2 "" []],
      branch "word" 3 5 "argument" [], branch "word" 6 7 "argument" [],
      branch "word" 8 11 "argument" [], branch "word" 12 13 "argument" []],
    branch "command" 14 28 "" [
      branch "command_name" 14 16 "name" [branch "word" 14 16 "" []],
      branch "word" 17 19 "argument" [],
      branch "simple_expansion" 20 22 "argument" [branch "variable_name" 21 22 "" []],
      branch "word" 23 26 "argument" [], branch "word" 27 28 "argument" []]]

/-- The first command of `variableText`. -/
def keptCommand : Command :=
  ⟨"rm", [⟨"-v", .literal⟩, ⟨"a", .literal⟩, ⟨"-rf", .literal⟩, ⟨"/", .literal⟩], ⟨1, 1⟩⟩

/-- The second command of `variableText`. -/
def hiddenCommand : Command :=
  ⟨"rm", [⟨"-v", .literal⟩, .ofVariable "d", ⟨"-rf", .literal⟩, ⟨"/", .literal⟩], ⟨2, 1⟩⟩

/-! ## What more flags report -/

/-- If `rules.WidensFlags wider`, the scans of a text by `rules` and by `wider` have
`KeepsUnhidden`, for shell scripts as for Go sources: what is reported by `rules` is reported by
`wider`, apart from exactly the `Hidden` commands. Those have a word between the two flags that has
an expansion, leads to no unsafe path, and is reached before any other word that decides. -/
theorem reported_with_more_flags (parser : Parser) (rules wider : RuleSet) (path content : String)
    (widens : rules.WidensFlags wider) :
    KeepsUnhidden rules wider (readShell parser path content)
      (scanShellPaths parser rules path content) (scanShellPaths parser wider path content) ∧
    KeepsUnhidden rules wider (readGo parser path content)
      (scanGo parser rules path content) (scanGo parser wider path content) :=
  ⟨keepsUnhidden_map widens path _, keepsUnhidden_map widens path _⟩

/-- With `verboseRules`, `keptCommand` is still reported, for words behind another flag, and
`hiddenCommand` is `Hidden`. -/
theorem reported_with_more_flags_variable :
    RuleSet.standard.WidensFlags verboseRules ∧
    ∃ script, readShell ⟨fun _ _ => variableTree⟩ "a.sh" variableText = .ok script ∧
      keptCommand ∈ reportedCommands .standard script ∧
      keptCommand ∈ reportedCommands verboseRules script ∧
      hiddenCommand ∈ reportedCommands .standard script ∧
      Hidden .standard verboseRules script.bindings hiddenCommand ∧
      hiddenCommand ∉ reportedCommands verboseRules script := by
  have widens : RuleSet.standard.WidensFlags verboseRules := ⟨rfl, rfl, by decide, rfl⟩
  refine ⟨widens, ?_⟩
  -- The script has the two commands and no variables.
  have parts : (readShell ⟨fun _ _ => variableTree⟩ "a.sh" variableText).toOption.map
      (fun script => (script.commands, script.bindings)) =
      some ([keptCommand, hiddenCommand], ⟨[]⟩) := by decide +kernel
  obtain ⟨⟨commands, bindings⟩, read, same⟩ := Option.map_eq_some_iff.mp parts
  cases same
  replace read := eq_ok_of_toOption_eq_some read
  obtain ⟨error, failed, _⟩ | ⟨script, few, many, same, _, _, _, _, kept, _⟩ :=
    (reported_with_more_flags ⟨fun _ _ => variableTree⟩ .standard verboseRules "a.sh" variableText
      widens).1
  · rw [scanShellPaths, read] at failed
    cases failed
  · rw [read] at same
    cases same
    have both : keptCommand ∈ reportedCommands .standard ⟨[keptCommand, hiddenCommand], ⟨[]⟩⟩ ∧
        hiddenCommand ∈ reportedCommands .standard ⟨[keptCommand, hiddenCommand], ⟨[]⟩⟩ := by
      decide
    have unhidden : ¬ Hidden .standard verboseRules ⟨[]⟩ keptCommand := by decide
    have hidden : Hidden .standard verboseRules ⟨[]⟩ hiddenCommand := by decide
    refine ⟨_, read, both.1, (kept _ both.1).mpr unhidden, both.2, hidden, ?_⟩
    intro reported
    exact (kept _ both.2).mp reported hidden

/-- A flag more hides a finding: `verboseRules` differ from the standard in that flag only, and the
second command of `variableText` is reported without it and not with it. -/
theorem scanShellPaths_variable :
    RuleSet.standard.WidensFlags verboseRules ∧
    ∃ few many,
      scanShellPaths ⟨fun _ _ => variableTree⟩ .standard "a.sh" variableText = .ok few ∧
      scanShellPaths ⟨fun _ _ => variableTree⟩ verboseRules "a.sh" variableText = .ok many ∧
      few.1.map (·.position) = [⟨1, 1⟩, ⟨2, 1⟩] ∧ many.1.map (·.position) = [⟨1, 1⟩] := by
  refine ⟨⟨rfl, rfl, by decide, rfl⟩, ?_⟩
  have before :
      (scanShellPaths ⟨fun _ _ => variableTree⟩ .standard "a.sh" variableText).toOption.map
      (·.1.map (·.position)) = some [⟨1, 1⟩, ⟨2, 1⟩] := by decide +kernel
  have after :
      (scanShellPaths ⟨fun _ _ => variableTree⟩ verboseRules "a.sh" variableText).toOption.map
      (·.1.map (·.position)) = some [⟨1, 1⟩] := by decide +kernel
  obtain ⟨few, scanned, fewPlaces⟩ := Option.map_eq_some_iff.mp before
  obtain ⟨many, scannedMore, manyPlaces⟩ := Option.map_eq_some_iff.mp after
  exact ⟨few, many, eq_ok_of_toOption_eq_some scanned, eq_ok_of_toOption_eq_some scannedMore,
    fewPlaces, manyPlaces⟩

end Scan

end Footgun
