import Footgun.Proofs.WrapperRules

/-! # Peeling off wrappers

`Shell.unwrap` takes turns: as long as a command is a wrapper that runs another program, that
program takes its place. Main definitions:

* `Shell.Peels` — one turn, as a relation between the command before it and the command behind it;
* `Shell.CutFrom` — a command that consists of an argument of another one and the arguments behind
  it.

The main statement is `Shell.unwrap_peels_to_fixed_point`: there are never more turns than
arguments, and what they lead to is the command itself or cut from it, and does not change any
more. -/

namespace Footgun.Shell

/-! ## One turn -/

/-- One turn: a wrapper gives way to the program that it runs, with the words behind it. -/
inductive Peels : Command → Command → Prop
  /-- The program is found among the arguments of a wrapper. -/
  | turn {command : Command} {word : Word} {rest : List Word}
    (wrapper : baseName command.name ∈ wrappers)
    (runs : wrapped? false command.arguments = some (word, rest)) :
    Peels command ⟨word.text, rest, command.position⟩

/-- A turn `Peels` a wrapper off exactly if the name is one of the `wrappers` and `wrapped?` finds a
program. -/
theorem peels_iff {command next : Command} :
    Peels command next ↔ baseName command.name ∈ wrappers ∧
      (wrapped? false command.arguments).map (fun found =>
        ⟨found.1.text, found.2, command.position⟩) = some next := by
  constructor
  · rintro ⟨wrapper, runs⟩
    exact ⟨wrapper, by rw [runs, Option.map_some]⟩
  · rintro ⟨wrapper, found⟩
    obtain ⟨⟨word, rest⟩, runs, rfl⟩ := Option.map_eq_some_iff.mp found
    exact .turn wrapper runs

instance : DecidableRel Peels := fun _ _ =>
  decidable_of_iff _ peels_iff.symm

/-- The command `result` consists of an argument of `command` that is written out, as its name, and
exactly the arguments behind that one. -/
def CutFrom (command result : Command) : Prop :=
  ∃ before word, command.arguments = before ++ word :: result.arguments ∧ word.origin = .literal ∧
    result.name = word.text

/-- The search `wrapped?` stops at a word with `isProgram`, or goes on behind the word. -/
theorem wrapped?_cons_cases (skipping : Bool) (word : Word) (rest : List Word) :
    (isProgram word ∧ wrapped? skipping (word :: rest) = some (word, rest)) ∨
      ∃ next, wrapped? skipping (word :: rest) = wrapped? next rest := by
  -- All other words only decide whether the next one is passed over as the value of an option.
  rw [wrapped?]
  split
  · exact .inr ⟨skipping, rfl⟩
  split
  · exact .inr ⟨false, rfl⟩
  split
  · exact .inr ⟨_, rfl⟩
  split
  · exact .inr ⟨false, rfl⟩
  split
  · exact .inr ⟨false, rfl⟩
  split
  · rename_i names
    exact .inl ⟨names, rfl⟩
  · exact .inr ⟨false, rfl⟩

/-- A program that `wrapped?` finds stands among the words, right before those that are given with
it. -/
theorem exists_append_of_wrapped? {skipping : Bool} {words rest : List Word} {word : Word}
    (found : wrapped? skipping words = some (word, rest)) :
    isProgram word ∧ ∃ before, words = before ++ word :: rest := by
  induction words generalizing skipping with
  | nil => cases found
  | cons first others ih =>
      rcases wrapped?_cons_cases skipping first others with ⟨names, here⟩ | ⟨next, later⟩
      · rw [here] at found
        cases found
        exact ⟨names, [], rfl⟩
      · rw [later] at found
        obtain ⟨names, before, split⟩ := ih found
        exact ⟨names, first :: before, by rw [split, List.cons_append]⟩

namespace Peels

variable {command next : Command}

/-- A turn `Peels` to a command that is `CutFrom` the one before. -/
theorem cutFrom (peels : Peels command next) : CutFrom command next := by
  obtain ⟨_, runs⟩ := peels
  obtain ⟨names, before, split⟩ := exists_append_of_wrapped? runs
  rw [isProgram, Bool.and_eq_true, beq_iff_eq] at names
  exact ⟨before, _, split, names.1, rfl⟩

/-- A turn `Peels` off at least one argument. -/
theorem length_lt (peels : Peels command next) :
    next.arguments.length < command.arguments.length := by
  obtain ⟨_, runs⟩ := peels
  exact length_lt_of_wrapped? runs

/-- A turn does not change what `unwrap` leads to. -/
theorem unwrap_eq (peels : Peels command next) : unwrap command = unwrap next := by
  obtain ⟨wrapper, runs⟩ := peels
  exact unwrap_of_wrapped? wrapper runs

end Peels

/-- There is a turn to take exactly for a command that `RunsAnother` program. -/
theorem exists_peels_iff {command : Command} :
    (∃ next, Peels command next) ↔ RunsAnother command := by
  constructor
  · rintro ⟨_, wrapper, runs⟩
    exact ⟨wrapper, by rw [runs, Option.isSome_some]⟩
  · rintro ⟨wrapper, isSome⟩
    obtain ⟨⟨word, rest⟩, runs⟩ := Option.isSome_iff_exists.mp isSome
    exact ⟨_, .turn wrapper runs⟩

/-- There is no turn to take exactly for a command that runs no other program. -/
theorem forall_not_peels_iff {command : Command} :
    (∀ next, ¬ Peels command next) ↔ ¬ RunsAnother command := by
  rw [← exists_peels_iff, not_exists]

/-! ## Turn after turn -/

/-- A command that is `CutFrom` one that was itself `CutFrom` another is `CutFrom` that one. -/
theorem CutFrom.trans {first second third : Command} (left : CutFrom first second)
    (right : CutFrom second third) : CutFrom first third := by
  obtain ⟨before, word, split, _, _⟩ := left
  obtain ⟨between, program, splitAgain, literal, name⟩ := right
  refine ⟨before ++ word :: between, program, ?_, literal, name⟩
  rw [split, splitAgain, List.append_assoc, List.cons_append]

/-- There are no more turns than arguments. The induction is on the turns. -/
theorem length_le_of_isChain {command : Command} {run : List Command}
    (chain : (command :: run).IsChain Peels) : run.length ≤ command.arguments.length := by
  induction run generalizing command with
  | nil => exact Nat.zero_le _
  | cons next later ih =>
      rw [List.isChain_cons_cons] at chain
      have fewer := chain.1.length_lt
      have others := ih chain.2
      rw [List.length_cons]
      omega

/-- Turn after turn, a command stays as it is or is `CutFrom` the first one. The induction is on the
turns. -/
theorem cutFrom_of_isChain {command result : Command} {run : List Command}
    (chain : (command :: run).IsChain Peels) (last : (command :: run).getLast? = some result) :
    result = command ∨ CutFrom command result := by
  induction run generalizing command with
  | nil =>
      cases last
      exact .inl rfl
  | cons next later ih =>
      rw [List.isChain_cons_cons] at chain
      rw [List.getLast?_cons_cons] at last
      rcases ih chain.2 last with rfl | cut
      · exact .inr chain.1.cutFrom
      · exact .inr (chain.1.cutFrom.trans cut)

/-- The command `unwrap command` is reached by turns that `Peels`. -/
theorem exists_isChain_unwrap (command : Command) :
    ∃ run, (command :: run).IsChain Peels ∧ (command :: run).getLast? = some (unwrap command) := by
  fun_induction unwrap command with
  | case1 command wrapper word rest runs ih =>
      obtain ⟨run, chain, last⟩ := ih
      have peels : Peels command ⟨word.text, rest, command.position⟩ :=
        .turn (List.contains_iff_mem.mp wrapper) runs
      refine ⟨_ :: run, List.isChain_cons_cons.mpr ⟨peels, chain⟩, ?_⟩
      rw [List.getLast?_cons_cons, last]
  | case2 command => exact ⟨[], List.IsChain.singleton _, rfl⟩
  | case3 command => exact ⟨[], List.IsChain.singleton _, rfl⟩

/-- All commands on the way are peeled to the same one. -/
theorem unwrap_eq_of_isChain {command result : Command} {run : List Command}
    (chain : (command :: run).IsChain Peels) (last : (command :: run).getLast? = some result) :
    unwrap command = unwrap result := by
  induction run generalizing command with
  | nil =>
      cases last
      rfl
  | cons next later ih =>
      rw [List.isChain_cons_cons] at chain
      rw [List.getLast?_cons_cons] at last
      rw [chain.1.unwrap_eq, ih chain.2 last]

/-- The command `unwrap command` runs no other program. -/
theorem not_runsAnother_unwrap (command : Command) : ¬ RunsAnother (unwrap command) := by
  fun_induction unwrap command with
  | case1 command wrapper word rest runs ih => exact ih
  | case2 command wrapper nothing =>
      rintro ⟨_, isSome⟩
      rw [nothing] at isSome
      cases isSome
  | case3 command plain => exact fun runs => plain (List.contains_iff_mem.mpr runs.1)

/-! ## The whole run -/

/-- Wrappers around each other, with their options and assignments. -/
def nestedWrappers : Command :=
  ⟨"sudo",
    [⟨"env", .literal⟩, ⟨"A=b", .literal⟩, ⟨"nice", .literal⟩, ⟨"-n", .literal⟩, ⟨"5", .literal⟩,
      ⟨"/usr/bin/sudo", .literal⟩, ⟨"rm", .literal⟩, ⟨"-rf", .literal⟩, ⟨"/", .literal⟩], ⟨4, 7⟩⟩

/-- The turns of `nestedWrappers`. The program that a turn finds has the arguments from an index
on. -/
def nestedRun : List Command :=
  [("env", 1), ("nice", 3), ("/usr/bin/sudo", 6), ("rm", 7)].map fun turn =>
    ⟨turn.1, nestedWrappers.arguments.drop turn.2, nestedWrappers.position⟩

/-- Peeling ends, at a fixed point, and only peels.

(1) There are never more turns that `Peels` than arguments.

(2) `unwrap command` is what the turns lead to when none is left to take.

(3) It has the position of the command, and is the command itself or `CutFrom` it: an argument that
is written out, with exactly the arguments behind that one.

(4) Its name is one of the `wrappers` only if `wrapped?` finds no program among its arguments.

(5) Peeling it again does not change it. -/
theorem unwrap_peels_to_fixed_point (command : Command) :
    (∀ run, (command :: run).IsChain Peels → run.length ≤ command.arguments.length) ∧
    (∀ result, unwrap command = result ↔
      ∃ run, (command :: run).IsChain Peels ∧ (command :: run).getLast? = some result ∧
        ∀ next, ¬ Peels result next) ∧
    (unwrap command).position = command.position ∧
    (unwrap command = command ∨ CutFrom command (unwrap command)) ∧
    (baseName (unwrap command).name ∈ wrappers → wrapped? false (unwrap command).arguments = none) ∧
    unwrap (unwrap command) = unwrap command := by
  obtain ⟨run, chain, last⟩ := exists_isChain_unwrap command
  have ended := not_runsAnother_unwrap command
  refine ⟨fun _ => length_le_of_isChain, fun result => ⟨?_, ?_⟩, position_unwrap command,
    cutFrom_of_isChain chain last, fun wrapper => ?_, unwrap_eq_self ended⟩
  · rintro rfl
    exact ⟨run, chain, last, forall_not_peels_iff.mpr ended⟩
  · -- All commands on the way are peeled to the same one, and the last one stays as it is.
    rintro ⟨other, otherChain, otherLast, alone⟩
    rw [unwrap_eq_of_isChain otherChain otherLast, unwrap_eq_self (forall_not_peels_iff.mp alone)]
  · rw [← Option.not_isSome_iff_eq_none]
    exact fun isSome => ended ⟨wrapper, isSome⟩

/-- The four `nestedWrappers` around a removal are peeled off in four turns. -/
theorem unwrap_peels_to_fixed_point_nested :
    (nestedWrappers :: nestedRun).IsChain Peels ∧
    nestedRun.length ≤ nestedWrappers.arguments.length ∧
    unwrap nestedWrappers = ⟨"rm", [⟨"-rf", .literal⟩, ⟨"/", .literal⟩], ⟨4, 7⟩⟩ := by
  obtain ⟨bounded, leads, _⟩ := unwrap_peels_to_fixed_point nestedWrappers
  have chain : (nestedWrappers :: nestedRun).IsChain Peels := by decide
  refine ⟨chain, bounded nestedRun chain, (leads _).mpr ⟨nestedRun, chain, rfl, ?_⟩⟩
  exact forall_not_peels_iff.mpr (by decide)

end Footgun.Shell
