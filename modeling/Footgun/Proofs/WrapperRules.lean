import Footgun.Proofs.FileEnding
import Footgun.Proofs.Samples
import Mathlib.Data.List.TakeWhile

/-! # Rules about wrappers

A rule is consulted once the wrappers of a command are peeled off. A command with a hazardous flag
is therefore reported as it is written, unless it is itself a wrapper that runs another program:
then that program is judged in its place. Main definitions:

* `Shell.RunsAnother` — a command is a wrapper with a program among its arguments;
* `Scan.Hits` — a rule is about a command, and the command has a hazardous flag;
* `Scan.HitAt` — a node of a script gives such a command, as it is written;
* `Scan.findingsAt` — the findings that a node contributes.

The main statement is `Scan.written_hits_reported`. -/

namespace Footgun

open Syntax (Tree Source Parser)
open Journal (Event)

/-! ## Names of programs -/

/-- Taking `baseName` twice is taking it once: what follows the last slash has no slash left. -/
theorem baseName_baseName (name : String) : baseName (baseName name) = baseName name := by
  rw [baseName, baseName, String.toList_ofList, List.reverse_reverse, List.takeWhile_idem]

/-- From `rule.names program` follows `baseName program = baseName rule.name`. -/
theorem Rule.baseName_of_names {rule : Rule} {program : String} (named : rule.names program) :
    baseName program = baseName rule.name := by
  rw [Rule.names, Bool.and_eq_true, Bool.or_eq_true] at named
  rcases named.2 with same | last
  · rw [eq_of_beq same]
  · rw [← eq_of_beq last, baseName_baseName]

/-! ## Peeling -/

namespace Shell

/-- The `command` is a wrapper that runs another program. -/
def RunsAnother (command : Command) : Prop :=
  baseName command.name ∈ wrappers ∧ (wrapped? false command.arguments).isSome

instance : DecidablePred RunsAnother := fun command =>
  inferInstanceAs (Decidable
    (baseName command.name ∈ wrappers ∧ (wrapped? false command.arguments).isSome))

/-- A wrapper gives way to the program that it runs: if `wrapped?` finds `word` with `rest` behind
it, `unwrap command` is `unwrap` of that program at the same position. -/
theorem unwrap_of_wrapped? {command : Command} {word : Word} {rest : List Word}
    (wrapper : baseName command.name ∈ wrappers)
    (runs : wrapped? false command.arguments = some (word, rest)) :
    unwrap command = unwrap ⟨word.text, rest, command.position⟩ := by
  rw [unwrap, if_pos (List.contains_iff_mem.mpr wrapper)]
  split
  · rename_i found
    cases runs.symm.trans found
    rfl
  · rename_i nothing
    rw [runs] at nothing
    cases nothing

/-- A command with `¬ RunsAnother command` stays as it is: `unwrap command = command`. -/
theorem unwrap_eq_self {command : Command} (alone : ¬ RunsAnother command) :
    unwrap command = command := by
  rw [unwrap]
  split
  · rename_i wrapper
    split
    · rename_i runs
      exact absurd ⟨List.contains_iff_mem.mp wrapper, by rw [runs, Option.isSome_some]⟩ alone
    · rfl
  · rfl

end Shell

namespace Scan

/-! ## Commands that a rule is about -/

/-- The `rule` is about `command`, and the command has a hazardous flag. -/
def Hits (rule : Rule) (command : Command) : Prop :=
  rule.names command.name ∧ (matchFlags command.texts rule.flags).isSome

instance (rule : Rule) : DecidablePred (Hits rule) := fun command =>
  inferInstanceAs (Decidable
    (rule.names command.name ∧ (matchFlags command.texts rule.flags).isSome))

/-- Looking for a flag with `flagOf?` succeeds exactly for the commands that `Hits rule` holds
of. -/
theorem isSome_flagOf?_iff {rule : Rule} {command : Command} :
    (flagOf? rule command).isSome ↔ Hits rule command := by
  rw [flagOf?, Hits]
  cases rule.names command.name <;> simp

/-- A rule with `baseName rule.name ∉ Shell.wrappers` never hits a command that is
`Shell.RunsAnother`. -/
theorem not_runsAnother_of_hits {rule : Rule} {command : Command}
    (notWrapper : baseName rule.name ∉ Shell.wrappers) (hits : Hits rule command) :
    ¬ Shell.RunsAnother command := by
  rintro ⟨wrapper, _⟩
  rw [Rule.baseName_of_names hits.1] at wrapper
  exact notWrapper wrapper

/-- A rule about a wrapper does not hit a command whose `baseName` is not among `Shell.wrappers`. -/
theorem not_hits_of_not_mem_wrappers {rule : Rule} {command : Command}
    (wrapper : baseName rule.name ∈ Shell.wrappers)
    (plain : baseName command.name ∉ Shell.wrappers) : ¬ Hits rule command := by
  intro hits
  rw [← Rule.baseName_of_names hits.1] at wrapper
  exact plain wrapper

/-- A flag of `flags` that comes first and is not empty is found by `matchFlags`. -/
theorem isSome_matchFlags_cons {flag : String} {rest flags : List String} (written : flag ≠ "")
    (member : flag ∈ flags) : (matchFlags (flag :: rest) flags).isSome := by
  rw [matchFlags, matchFlagsFrom, if_neg written, if_pos (List.contains_iff_mem.mpr member)]
  rfl

/-- The run `extendRun run word` is not empty if `word` is not. -/
theorem extendRun_ne_empty {run word : String} (written : word ≠ "") : extendRun run word ≠ "" := by
  rw [extendRun]
  split
  · simp [String.append_eq_empty_iff]
  · exact written

/-- If every one of `flags` is `""`, `matchFlagsFrom` finds nothing, whatever the `run` and the
`words`. -/
theorem matchFlagsFrom_eq_none {flags : List String} (empty : ∀ flag ∈ flags, flag = "")
    (index : Nat) (run : String) (words : List String) :
    matchFlagsFrom flags index run words = none := by
  induction words generalizing index run with
  | nil => rfl
  | cons word rest ih =>
      have unknown : ∀ text : String, text ≠ "" → ¬ flags.contains text :=
        fun text written member =>
        written (empty text (List.contains_iff_mem.mp member))
      rw [matchFlagsFrom]
      by_cases blank : word = ""
      · rw [if_pos blank]
        exact ih _ _
      · rw [if_neg blank, if_neg (unknown word blank),
          if_neg (unknown _ (extendRun_ne_empty blank))]
        exact ih _ _

/-! ## Hits that peeling keeps -/

/-- A word that names a program and no wrapper. -/
def plainWord : Word :=
  ⟨"a", .literal⟩

/-- Behind a wrapper, `plainWord` is the program that `Shell.wrapped?` finds. -/
theorem wrapped?_plainWord (rest : List Word) :
    Shell.wrapped? false (plainWord :: rest) = some (plainWord, rest) := by
  rw [Shell.wrapped?, if_neg (by decide), if_neg Bool.false_ne_true, if_neg (by decide),
    if_neg (by decide), if_neg (by decide), if_pos (by decide)]

/-- In `[word, plainWord, plainWord]` the program that `Shell.wrapped?` finds is a `plainWord`, or
it is `word` with both of them behind it. -/
theorem wrapped?_before_plainWords {word : Word} (written : word.text ≠ "") :
    (∃ rest, Shell.wrapped? false [word, plainWord, plainWord] = some (plainWord, rest)) ∨
      Shell.wrapped? false [word, plainWord, plainWord] = some (word, [plainWord, plainWord]) := by
  have next := wrapped?_plainWord [plainWord]
  rw [Shell.wrapped?, if_neg written, if_neg Bool.false_ne_true]
  split
  · -- An option takes the first plain word as its value, or leaves it.
    refine .inl ?_
    cases Shell.valueOptions.contains word.text with
    | false => exact ⟨_, next⟩
    | true =>
        refine ⟨[], ?_⟩
        rw [Shell.wrapped?, if_neg (by decide), if_pos rfl]
        exact wrapped?_plainWord []
  · split
    · exact .inl ⟨_, next⟩
    · split
      · exact .inl ⟨_, next⟩
      · split
        · exact .inr rfl
        · exact .inl ⟨_, next⟩

/-- A wrapper that runs `plainWord` is peeled by `Shell.unwrap` to a command that is no wrapper. -/
theorem not_mem_wrappers_of_runs_plainWord {command : Command} {rest : List Word}
    (wrapper : baseName command.name ∈ Shell.wrappers)
    (runs : Shell.wrapped? false command.arguments = some (plainWord, rest)) :
    baseName (Shell.unwrap command).name ∉ Shell.wrappers := by
  have plain : baseName plainWord.text ∉ Shell.wrappers := by decide
  have alone : ¬ Shell.RunsAnother ⟨plainWord.text, rest, command.position⟩ :=
    fun runsAnother => plain runsAnother.1
  rw [Shell.unwrap_of_wrapped? wrapper runs, Shell.unwrap_eq_self alone]
  exact plain

/-- A wrapper with the arguments `[word, plainWord, plainWord]` is peeled by `Shell.unwrap` to a
command that is no wrapper. -/
theorem not_mem_wrappers_before_plainWords {command : Command} {word : Word}
    (wrapper : baseName command.name ∈ Shell.wrappers) (written : word.text ≠ "")
    (arguments : command.arguments = [word, plainWord, plainWord]) :
    baseName (Shell.unwrap command).name ∉ Shell.wrappers := by
  rcases wrapped?_before_plainWords written with ⟨rest, runs⟩ | runs
  · rw [← arguments] at runs
    exact not_mem_wrappers_of_runs_plainWord wrapper runs
  · rw [← arguments] at runs
    rw [Shell.unwrap_of_wrapped? wrapper runs]
    -- The word is itself a program here: peeling goes on if it is a wrapper, and ends if not.
    by_cases again : baseName word.text ∈ Shell.wrappers
    · refine not_mem_wrappers_of_runs_plainWord ?_ (wrapped?_plainWord [plainWord])
      exact again
    · have alone : ¬ Shell.RunsAnother ⟨word.text, [plainWord, plainWord], command.position⟩ :=
        fun runsAnother => again runsAnother.1
      rw [Shell.unwrap_eq_self alone]
      exact again

/-- For a rule, `Shell.unwrap` keeps `Hits rule` of every command exactly if the rule is about no
wrapper or all of `rule.flags` are `""`. -/
theorem forall_hits_unwrap_iff (rule : Rule) :
    (∀ command, Hits rule command → Hits rule (Shell.unwrap command)) ↔
      baseName rule.name ∉ Shell.wrappers ∨ ∀ flag ∈ rule.flags, flag = "" := by
  constructor
  · intro keeps
    by_contra neither
    rw [not_or, not_not] at neither
    obtain ⟨wrapper, someFlag⟩ := neither
    push Not at someFlag
    obtain ⟨flag, member, written⟩ := someFlag
    have named : rule.names rule.name := by
      have nonempty : rule.name ≠ "" := by
        intro empty
        rw [empty] at wrapper
        revert wrapper
        decide
      simp [Rule.names, nonempty]
    -- The rule is about a wrapper, and here this wrapper runs another program.
    let command : Command := ⟨rule.name, [⟨flag, .literal⟩, plainWord, plainWord], ⟨1, 1⟩⟩
    have hits : Hits rule command := ⟨named, isSome_matchFlags_cons written member⟩
    have peeled : baseName (Shell.unwrap command).name ∉ Shell.wrappers :=
      not_mem_wrappers_before_plainWords wrapper written rfl
    exact not_hits_of_not_mem_wrappers wrapper peeled (keeps command hits)
  · rintro (notWrapper | empty) command hits
    · rw [Shell.unwrap_eq_self (not_runsAnother_of_hits notWrapper hits)]
      exact hits
    · have nothing := hits.2
      rw [matchFlags, matchFlagsFrom_eq_none empty] at nothing
      cases nothing

/-! ## Findings of a node -/

/-- The `node` gives `command`, and `rule` hits the command as it is written (`Hits`). -/
structure HitAt (rule : Rule) (source : Source) (node : Tree) (command : Command) : Prop where
  /-- The node stands for a command. -/
  kind : node.kind = "command"
  /-- The command is that of the node. -/
  read : Shell.commandOf source node = some (some command)
  /-- The rule is about the command, which has a hazardous flag. -/
  hits : Hits rule command

/-- The finding about `node`. -/
def findingAt (rules : RuleSet) (path : String) (source : Source) (node : Tree) : Finding :=
  ⟨path, source.position node.label.start, rules.command.label, ""⟩

/-- The findings that `node` contributes by the flag policy. -/
def findingsAt (rules : RuleSet) (path : String) (source : Source) (node : Tree) : List Finding :=
  ((commandAt .bash source node).bind fun command =>
    (flagOf? rules.command command).map fun _ =>
      Finding.at path rules.command.label "" command).toList

/-- A result of `scanShellFlags` has no `events`, and its `findings` are `findingsAt` each node of
the tree, in `preorder`. -/
theorem findings_of_scanShellFlags {parser : Parser} {rules : RuleSet} {path content : String}
    {findings : List Finding} {events : List Event}
    (scanned : scanShellFlags parser rules path content = .ok (findings, events)) :
    events = [] ∧ findings = (parser.tree .bash content).preorder.flatMap
      (findingsAt rules path (Source.ofText content)) := by
  obtain ⟨script, read, same⟩ := exists_of_map_eq_ok scanned
  cases same
  refine ⟨rfl, ?_⟩
  rw [flagPolicy_eq_filterMap, commands_of_readShell read, List.filterMap_filterMap,
    List.filterMap_eq_flatMap_toList]
  rfl

/-- If the tree is not `erroneous` and `Fits content`, `scanShellFlags` gives a result. -/
theorem exists_scanShellFlags_eq_ok {parser : Parser} (rules : RuleSet) (path : String)
    {content : String} (sound : (parser.tree .bash content).label.erroneous = false)
    (fits : (parser.tree .bash content).Fits content) :
    ∃ findings, scanShellFlags parser rules path content = .ok (findings, []) := by
  cases read : readShell parser path content with
  | error failure =>
      have marked := (erroneous_of_readShell_eq_error fits read).2
      rw [sound] at marked
      cases marked
  | ok script => exact ⟨_, by rw [scanShellFlags, read]; rfl⟩

variable {rules : RuleSet} {source : Source} {node : Tree} {command : Command}

/-- At a node with `HitAt` the peeled command decides: `findingsAt` is `[findingAt …]` if `Hits`
holds of `Shell.unwrap command`, and `[]` if not. -/
theorem findingsAt_of_hitAt (path : String) (hit : HitAt rules.command source node command) :
    (Hits rules.command (Shell.unwrap command) →
      findingsAt rules path source node = [findingAt rules path source node]) ∧
    (¬ Hits rules.command (Shell.unwrap command) → findingsAt rules path source node = []) := by
  have given : commandAt .bash source node = some (Shell.unwrap command) := by
    rw [commandAt, if_pos (show node.kind = commandKind .bash from hit.kind)]
    simp only [hit.read, Option.join_some, Option.map_some]
  have start := (kind_and_position_of_commandAt given).2
  rw [findingsAt, given, Option.bind_some, ← isSome_flagOf?_iff]
  cases flagOf? rules.command (Shell.unwrap command) with
  | none => exact ⟨fun found => absurd found Bool.false_ne_true, fun _ => rfl⟩
  | some found =>
      refine ⟨fun _ => ?_, fun missing => absurd rfl missing⟩
      rw [Option.map_some, Option.toList_some, Finding.at, start]
      rfl

/-! ## A script with two logins -/

/-- A rule about a wrapper. -/
def loginRules : RuleSet :=
  ⟨⟨"sudo", ["-i"], "sudo -i"⟩, []⟩

/-- A script that starts a shell for another user, and then a program. -/
def loginText : String :=
  "sudo -i\nsudo -i ls\n"

/-- The node of the first command. -/
def shellLogin : Tree :=
  branch "command" 0 7 "" [
    branch "command_name" 0 4 "name" [branch "word" 0 4 "" []],
    branch "word" 5 7 "argument" []]

/-- The node of the second command. -/
def programLogin : Tree :=
  branch "command" 8 18 "" [
    branch "command_name" 8 12 "name" [branch "word" 8 12 "" []],
    branch "word" 13 15 "argument" [], branch "word" 16 18 "argument" []]

/-- The tree of `loginText`. -/
def loginTree : Tree :=
  branch "program" 0 19 "" [shellLogin, programLogin]

/-- The command of `shellLogin`. -/
def shellCommand : Command :=
  ⟨"sudo", [⟨"-i", .literal⟩], ⟨1, 1⟩⟩

/-- The command of `programLogin`, as it is written. -/
def programCommand : Command :=
  ⟨"sudo", [⟨"-i", .literal⟩, ⟨"ls", .literal⟩], ⟨2, 1⟩⟩

/-- The rule of `loginRules` has `HitAt` both at `shellLogin` and at `programLogin`. -/
theorem hitAt_logins :
    HitAt loginRules.command (Source.ofText loginText) shellLogin shellCommand ∧
      HitAt loginRules.command (Source.ofText loginText) programLogin programCommand :=
  ⟨⟨rfl, by decide, by decide⟩, ⟨rfl, by decide, by decide⟩⟩

/-! ## Reported commands -/

/-- Commands that a rule hits as they are written, in a script whose tree is not marked `erroneous`:

(1) if the tree `Fits content`, `scanShellFlags` gives `findings` and no events;

(2) whatever `scanShellFlags` gives are `findingsAt` each node, in `preorder`;

(3) at a node with `HitAt`, `findingsAt` is the one `findingAt` the node if
`¬ Shell.RunsAnother command`; it is that one exactly if the rule `Hits` the peeled command
`Shell.unwrap command`, and `[]` exactly if not; and it is that one for every rule with
`baseName rules.command.name ∉ Shell.wrappers`;

(4) `Shell.unwrap` keeps `Hits` of all commands exactly for the rules that are about no wrapper or
have only `""` among their flags. -/
theorem written_hits_reported (parser : Parser) (rules : RuleSet) (path content : String)
    (sound : (parser.tree .bash content).label.erroneous = false) :
    ((parser.tree .bash content).Fits content →
      ∃ findings, scanShellFlags parser rules path content = .ok (findings, [])) ∧
    (∀ findings events, scanShellFlags parser rules path content = .ok (findings, events) →
      events = [] ∧ findings = (parser.tree .bash content).preorder.flatMap
        (findingsAt rules path (Source.ofText content))) ∧
    (∀ node command, HitAt rules.command (Source.ofText content) node command →
      (¬ Shell.RunsAnother command →
        findingsAt rules path (Source.ofText content) node =
          [findingAt rules path (Source.ofText content) node]) ∧
      (findingsAt rules path (Source.ofText content) node =
          [findingAt rules path (Source.ofText content) node] ↔
        Hits rules.command (Shell.unwrap command)) ∧
      (findingsAt rules path (Source.ofText content) node = [] ↔
        ¬ Hits rules.command (Shell.unwrap command)) ∧
      (baseName rules.command.name ∉ Shell.wrappers →
        findingsAt rules path (Source.ofText content) node =
          [findingAt rules path (Source.ofText content) node])) ∧
    ((∀ command, Hits rules.command command → Hits rules.command (Shell.unwrap command)) ↔
      baseName rules.command.name ∉ Shell.wrappers ∨ ∀ flag ∈ rules.command.flags, flag = "") := by
  refine ⟨exists_scanShellFlags_eq_ok rules path sound, fun _ _ => findings_of_scanShellFlags, ?_,
    forall_hits_unwrap_iff rules.command⟩
  intro node command hit
  obtain ⟨reported, missed⟩ := findingsAt_of_hitAt path hit
  -- A command that runs no other program is not changed by peeling.
  have alone (single : ¬ Shell.RunsAnother command) :
      Hits rules.command (Shell.unwrap command) := by
    rw [Shell.unwrap_eq_self single]
    exact hit.hits
  refine ⟨fun single => reported (alone single), ⟨fun one => ?_, reported⟩,
    ⟨fun nothing hits => ?_, missed⟩, fun notWrapper =>
      reported (alone (not_runsAnother_of_hits notWrapper hit.hits))⟩
  · by_contra misses
    rw [missed misses] at one
    cases one
  · rw [reported hits] at nothing
    cases nothing

/-- With `loginRules` there is a finding at `shellLogin`, which runs no program, and none at
`programLogin`, which runs one. -/
theorem written_hits_reported_logins :
    loginTree.label.erroneous = false ∧
      HitAt loginRules.command (Source.ofText loginText) shellLogin shellCommand ∧
      findingsAt loginRules "a.sh" (Source.ofText loginText) shellLogin =
        [⟨"a.sh", ⟨1, 1⟩, "sudo -i", ""⟩] ∧
      HitAt loginRules.command (Source.ofText loginText) programLogin programCommand ∧
      findingsAt loginRules "a.sh" (Source.ofText loginText) programLogin = [] := by
  obtain ⟨shellHit, programHit⟩ := hitAt_logins
  have each := (written_hits_reported ⟨fun _ _ => loginTree⟩ loginRules "a.sh" loginText rfl).2.2.1
  have reported := (each shellLogin shellCommand shellHit).1
  have missed := (each programLogin programCommand programHit).2.2.1
  refine ⟨rfl, shellHit, ?_, programHit, ?_⟩
  · rw [reported (by decide)]
    decide
  · rw [missed]
    decide +kernel

/-- In `loginText` the rule has `HitAt` two commands, and `scanShellFlags` reports the first one
only. -/
theorem scanShellFlags_logins :
    (HitAt loginRules.command (Source.ofText loginText) shellLogin shellCommand ∧
      HitAt loginRules.command (Source.ofText loginText) programLogin programCommand) ∧
    loginTree.Fits loginText ∧
    scanShellFlags ⟨fun _ _ => loginTree⟩ loginRules "a.sh" loginText =
      .ok ([⟨"a.sh", ⟨1, 1⟩, "sudo -i", ""⟩], []) := by
  refine ⟨hitAt_logins, by decide, ?_⟩
  have commands : ((readShell ⟨fun _ _ => loginTree⟩ "a.sh" loginText).toOption.map
      fun script => script.commands) = some [shellCommand, ⟨"ls", [], ⟨2, 1⟩⟩] := by
    decide +kernel
  have findings : flagPolicy loginRules "a.sh" [shellCommand, ⟨"ls", [], ⟨2, 1⟩⟩] =
      [⟨"a.sh", ⟨1, 1⟩, "sudo -i", ""⟩] := by
    decide
  obtain ⟨script, read, same⟩ := Option.map_eq_some_iff.mp commands
  rw [scanShellFlags, eq_ok_of_toOption_eq_some read, ← findings, ← same]
  rfl

end Scan

end Footgun
