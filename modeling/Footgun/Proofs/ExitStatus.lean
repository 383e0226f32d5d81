import Footgun.Proofs.CommandSteps
import Footgun.Proofs.FileEnding
import Footgun.Proofs.Samples
import Footgun.Proofs.SelectionFilter
import Mathlib.Data.List.TakeWhile

/-! # Exit codes of scans

A scan exits with 3 if nothing is selected, with 1 if something hazardous is found and with 0 if
not. It also exits with 1 if a step fails, whether or not anything has been found by then. Main
definitions:

* `selected`, `Plan.findingsOf` — what a scan selects, and what it finds in a file;
* `Breaks` — a step of a scan fails;
* `Faithful` — an exit code says what was selected and found.

The main statement is `exitCode_faithful_iff`. -/

namespace Footgun.Cli

open Journal (Event)
open Syntax (Parser)
open Scan (scanFile)

/-! ## The steps of a scan -/

variable {parser : Parser} {environment : Environment} {disk : Disk} {options : ScanOptions}

/-- The files that `plan` selects for `targets`. A suffix that is no text is met by the first file
that none of those before it fits. -/
def Plan.filesOf (plan : Plan) (disk : Disk) (targets : List String) :
    Except Failure (List String) :=
  if plan.suffixesBroken ∧
    ∃ entry ∈ (plan.walker.expandAll disk targets).1, entry.2.rejected ≠ [] then
    .error ⟨.wrongType, "an allowed suffix is no text"⟩
  else (plan.walker.select disk .zero targets).map (·.files)

/-- The plan of a scan that `options` ask for, and the files that it selects. -/
def selected (environment : Environment) (disk : Disk) (options : ScanOptions) :
    Except Failure (Plan × List String) := do
  let loaded ← Config.load disk environment options.root
  let plan ← Plan.make loaded.1 options
  let files ← plan.filesOf disk options.targets
  return (plan, files)

/-- The findings in `file`. -/
def Plan.findingsOf (plan : Plan) (parser : Parser) (disk : Disk) (file : String) :
    Except Failure (List Finding) :=
  (scanFile parser disk plan.rules plan.resolvePaths (some plan.limit) (Path.ofText file)).map (·.1)

/-- If all `next config` follow `f config`, loading a configuration and going on with `next` follows
`Config.load` and then `f`. -/
theorem follows_loadConfig {α : Type} {next : Config → Run α} {f : Config → Except Failure α}
    (environment : Environment) (root : String)
    (later : ∀ config, Run.Follows disk (next config) (f config)) :
    Run.Follows disk (loadConfig environment root >>= next)
      (Config.load disk environment root >>= fun loaded => f loaded.1) := by
  rw [loadConfig, bind_assoc]
  refine Run.follows_get fun session same => ?_
  rw [same, bind_assoc]
  refine (Run.follows_ofExcept _).bind fun loaded _ => ?_
  rw [bind_assoc, pure_bind]
  exact (Run.follows_tell loaded.2).seq (later loaded.1)

/-- Nothing is lost, `plan.soundPart expansions = expansions`, exactly if the suffixes are not
broken or no file is rejected. -/
theorem Plan.soundPart_eq_self_iff (plan : Plan) (expansions : List (String × Expansion)) :
    plan.soundPart expansions = expansions ↔
      ¬ (plan.suffixesBroken ∧ ∃ entry ∈ expansions, entry.2.rejected ≠ []) := by
  rw [soundPart]
  by_cases broken : plan.suffixesBroken
  · rw [if_pos broken, List.takeWhile_eq_self_iff]
    simp [broken]
  · rw [if_neg broken]
    simp [broken]

/-- The part `soundPart` is shorter exactly if it is not the whole. -/
theorem Plan.length_soundPart_lt_iff (plan : Plan) (expansions : List (String × Expansion)) :
    (plan.soundPart expansions).length < expansions.length ↔
      plan.soundPart expansions ≠ expansions := by
  have isPart : plan.soundPart expansions <+: expansions := by
    rw [soundPart]
    split
    · exact List.takeWhile_prefix _
    · exact List.prefix_rfl
  constructor
  · intro shorter same
    rw [same] at shorter
    omega
  · intro different
    exact Nat.lt_of_not_le fun le => different (isPart.eq_of_length_le le)

/-- The step `selectFiles` follows `filesOf`. -/
theorem Plan.follows_selectFiles (plan : Plan) (disk : Disk) (targets : List String) :
    Run.Follows disk (plan.selectFiles targets) (plan.filesOf disk targets) := by
  rw [selectFiles]
  refine Run.follows_get fun session same => ?_
  rw [same, filesOf, Walker.select]
  rcases plan.walker.expandAll disk targets with ⟨expansions, failure?⟩
  simp only [plan.length_soundPart_lt_iff]
  refine (Run.follows_tell _).seq ?_
  by_cases sound : plan.soundPart expansions = expansions
  · rw [if_neg (not_not_intro sound), if_neg ((plan.soundPart_eq_self_iff _).mp sound), sound]
    cases failure? with
    | none => exact (Run.follows_tell _).seq (Run.follows_pure _)
    | some failure => exact (Run.follows_failure failure).stop _
  · rw [if_pos sound, if_pos (not_not.mp (mt (plan.soundPart_eq_self_iff _).mpr sound))]
    exact (Run.follows_failure _).stop _

/-- The step `scanPath` follows `findingsOf`. -/
theorem Plan.follows_scanPath (plan : Plan) (parser : Parser) (disk : Disk) (file : String) :
    Run.Follows disk (plan.scanPath parser file) (plan.findingsOf parser disk file) := by
  rw [scanPath]
  refine Run.follows_get fun session same => ?_
  rw [same, findingsOf]
  cases scanFile parser disk plan.rules plan.resolvePaths (some plan.limit) (Path.ofText file) with
  | error failure => exact (Run.follows_tell _).seq (Run.follows_failure failure)
  | ok result => exact (Run.follows_tell result.2).seq (Run.follows_pure result.1)

/-- The step `scanPaths` follows `findingsOf` over all `files`, flattened. The induction is on
`files`. -/
theorem Plan.follows_scanPaths (plan : Plan) (parser : Parser) (disk : Disk) (files : List String) :
    Run.Follows disk (plan.scanPaths parser files)
      ((files.mapM (plan.findingsOf parser disk)).map List.flatten) := by
  induction files with
  | nil => exact Run.follows_pure []
  | cons file rest ih =>
      have here := plan.follows_scanPath parser disk file
      rw [scanPaths, List.mapM_cons]
      -- A file that cannot be scanned stops both sides, whatever comes after it.
      cases found : plan.findingsOf parser disk file with
      | error failure =>
          rw [found] at here
          exact here.stop _
      | ok findings =>
          rw [found] at here
          refine here.seq ?_
          cases later : rest.mapM (plan.findingsOf parser disk) with
          | error failure =>
              rw [later] at ih
              exact ih.stop _
          | ok lists =>
              rw [later] at ih
              exact ih.seq (Run.follows_pure _)

/-- Without findings, `printFindings` does not fail. -/
theorem follows_printFindings_nil (disk : Disk) (files : Nat) :
    Run.Follows disk (printFindings [] files) (.ok ()) :=
  Run.follows_print _

/-- With findings, `printFindings` fails exactly if `Output.openTable` does. -/
theorem follows_printFindings {findings : List Finding} (hazards : findings ≠ []) (disk : Disk)
    (files : Nat) :
    Run.Follows disk (printFindings findings files)
      (Output.openTable ["Location", "Command", "Detail"] (findings.map findingRow) >>=
        fun _ => .ok ()) := by
  rw [printFindings, if_neg (by simpa using hazards)]
  refine (Run.follows_print _).seq ?_
  exact (Run.follows_ofExcept _).bind fun table _ => Run.follows_print table

/-! ## Reports -/

/-- The report at `output` is asked for and cannot be put on the disk, or the line about it cannot
be printed. -/
def CannotSave (disk : Disk) (output : Option String) (findings : List Finding) : Prop :=
  ∃ path, output = some path ∧ path ≠ "" ∧
    ((putReport disk path findings).2 ≠ none ∨
      ∃ failure, Output.markupLine s!"Results saved to: {path}" = .error failure)

/-- The step `saveReport` goes on exactly if `¬ CannotSave`, and stops with a failure otherwise. -/
theorem run_saveReport (output : Option String) (findings : List Finding) (session : Session) :
    (((saveReport output findings).run session).1 = .ok () ∧
      ¬ CannotSave session.disk output findings) ∨
    ((∃ failure, ((saveReport output findings).run session).1 = .error (.failure failure)) ∧
      CannotSave session.disk output findings) := by
  rw [saveReport]
  cases asked : output.filter (· ≠ "") with
  | none =>
      -- Without a path there is nothing to save.
      refine .inl ⟨rfl, ?_⟩
      rintro ⟨path, rfl, notEmpty, _⟩
      simp [Option.filter, notEmpty] at asked
  | some path =>
      obtain ⟨rfl, notEmpty⟩ : output = some path ∧ path ≠ "" := by
        simpa [Option.filter_eq_some_iff] using asked
      have looked : (get : Run Session).run session = (.ok session, session) := rfl
      rw [Run.run_bind, looked]
      cases put : putReport session.disk path findings with
      | mk written failure? =>
          dsimp only
          rw [put]
          -- The report is written or not, and then it is announced or not.
          cases failure? with
          | some failure =>
              have unwritten : (putReport session.disk path findings).2 ≠ none := by simp [put]
              exact .inr ⟨⟨failure, rfl⟩, path, rfl, notEmpty, .inl unwritten⟩
          | none =>
              cases shown : Output.markupLine s!"Results saved to: {path}" with
              | error failure =>
                  exact .inr ⟨⟨failure, rfl⟩, path, rfl, notEmpty, .inr ⟨failure, shown⟩⟩
              | ok line =>
                  refine .inl ⟨rfl, ?_⟩
                  rintro ⟨other, same, _, unwritten | ⟨failure, unshown⟩⟩
                  · cases same
                    rw [put] at unwritten
                    exact unwritten rfl
                  · cases same
                    rw [shown] at unshown
                    cases unshown

/-! ## Exit codes of scans -/

/-- Selects the files of a scan. -/
def selectTargets (environment : Environment) (options : ScanOptions) :
    Run (Plan × List String) := do
  let config ← loadConfig environment options.root
  let plan ← Run.ofExcept (Plan.make config options)
  let files ← plan.selectFiles options.targets
  return (plan, files)

/-- What a scan does with the selected `files`. -/
def Plan.scanSelected (plan : Plan) (parser : Parser) (options : ScanOptions)
    (files : List String) : Run Unit := do
  if files.isEmpty then
    Run.printError "ERROR: No files matched the given targets\n"
    throw (.exit ExitCode.incomplete.toInt)
  let findings ← plan.scanPaths parser files
  Run.tell (findings.map .found)
  printFindings findings files.length
  saveReport options.output findings
  Run.finish (exitCode findings)

/-- A scan is `selectTargets`, and then `scanSelected` with the plan and the files. -/
theorem scan_eq (parser : Parser) (environment : Environment) (options : ScanOptions) :
    scan parser environment options =
      selectTargets environment options >>= fun chosen =>
        chosen.1.scanSelected parser options chosen.2 := by
  simp only [scan, selectTargets, bind_assoc, pure_bind, Plan.scanSelected]

/-- The step `selectTargets` follows `selected`. -/
theorem follows_selectTargets (environment : Environment) (disk : Disk) (options : ScanOptions) :
    Run.Follows disk (selectTargets environment options) (selected environment disk options) := by
  rw [selectTargets, selected]
  refine follows_loadConfig (f := fun config => do
    let plan ← Plan.make config options
    let files ← plan.filesOf disk options.targets
    return (plan, files)) environment options.root fun config => ?_
  refine (Run.follows_ofExcept _).bind fun plan _ => ?_
  refine (plan.follows_selectFiles disk options.targets).bind fun files _ => ?_
  exact Run.follows_pure (plan, files)

/-- Behind `saveReport`, a command exits with 1 if `CannotSave`, and with its own code if not. -/
theorem exits_saveReport (disk : Disk) (output : Option String) (findings : List Finding)
    (code : ExitCode) :
    (CannotSave disk output findings →
      Run.Exits disk (saveReport output findings >>= fun _ => Run.finish code) 1) ∧
    (¬ CannotSave disk output findings →
      Run.Exits disk (saveReport output findings >>= fun _ => Run.finish code) code.toInt) := by
  constructor
  · rintro cannot session rfl
    rw [Run.run_bind]
    rcases run_saveReport output findings session with ⟨_, can⟩ | ⟨⟨failure, fails⟩, _⟩
    · exact absurd cannot can
    · rcases ends : (saveReport output findings).run session with ⟨ending, after⟩
      rw [ends] at fails
      cases fails
      rfl
  · rintro can session rfl
    rw [Run.run_bind]
    rcases run_saveReport output findings session with ⟨saves, _⟩ | ⟨_, cannot⟩
    · rcases ends : (saveReport output findings).run session with ⟨ending, after⟩
      rw [ends] at saves
      cases saves
      rfl
    · exact absurd cannot can

/-- Without files, `scanSelected` exits with 3. -/
theorem Plan.exits_scanSelected_nil (plan : Plan) (parser : Parser) (disk : Disk)
    (options : ScanOptions) : Run.Exits disk (plan.scanSelected parser options []) 3 :=
  fun _ _ => rfl

namespace Plan

variable {plan : Plan} {files : List String} {lists : List (List Finding)}

/-- If `findingsOf` fails for a file, `scanSelected` exits with 1. -/
theorem exits_scanSelected_of_error (options : ScanOptions) {failure : Failure}
    (matched : files ≠ []) (failed : files.mapM (plan.findingsOf parser disk) = .error failure) :
    Run.Exits disk (plan.scanSelected parser options files) 1 := by
  have scans := plan.follows_scanPaths parser disk files
  rw [failed] at scans
  rw [scanSelected, if_neg (by simpa using matched)]
  exact scans.exits_stop _

/-- If something is found, `scanSelected` exits with 1. -/
theorem exits_scanSelected_of_ne_nil (options : ScanOptions) (matched : files ≠ [])
    (scanned : files.mapM (plan.findingsOf parser disk) = .ok lists)
    (hazards : lists.flatten ≠ []) : Run.Exits disk (plan.scanSelected parser options files) 1 := by
  have scans := plan.follows_scanPaths parser disk files
  rw [scanned] at scans
  rw [scanSelected, if_neg (by simpa using matched)]
  refine scans.exits_seq ((Run.follows_tell _).exits_seq ?_)
  -- The table, the report and the end of the command all give the same exit code.
  have prints := follows_printFindings hazards disk files.length
  cases shown :
    Output.openTable ["Location", "Command", "Detail"] (lists.flatten.map findingRow) with
  | error failure =>
      rw [shown] at prints
      exact prints.exits_stop _
  | ok table =>
      rw [shown] at prints
      refine prints.exits_seq ?_
      have code : exitCode lists.flatten = .hazardsFound := if_neg (by simpa using hazards)
      rw [code]
      have saves := exits_saveReport disk options.output lists.flatten .hazardsFound
      by_cases cannot : CannotSave disk options.output lists.flatten
      · exact saves.1 cannot
      · exact saves.2 cannot

/-- If nothing is found, `scanSelected` exits with 1 if `CannotSave`, and with 0 if not. -/
theorem exits_scanSelected_of_eq_nil (options : ScanOptions) (matched : files ≠ [])
    (scanned : files.mapM (plan.findingsOf parser disk) = .ok lists) (clean : lists.flatten = []) :
    (CannotSave disk options.output [] →
      Run.Exits disk (plan.scanSelected parser options files) 1) ∧
    (¬ CannotSave disk options.output [] →
      Run.Exits disk (plan.scanSelected parser options files) 0) := by
  have scans := plan.follows_scanPaths parser disk files
  rw [scanned] at scans
  replace scans : Run.Follows disk (plan.scanPaths parser files) (.ok []) := by
    rw [← clean]
    exact scans
  have saves := exits_saveReport disk options.output [] .success
  -- Scanning and printing an empty list change nothing about the end of `saveReport`.
  have both : ∀ code, Run.Exits disk
      (saveReport options.output [] >>= fun _ => Run.finish .success) code →
      Run.Exits disk (plan.scanSelected parser options files) code := by
    intro code exits
    rw [scanSelected, if_neg (by simpa using matched)]
    refine scans.exits_seq ((Run.follows_tell _).exits_seq ?_)
    exact (follows_printFindings_nil disk files.length).exits_seq exits
  exact ⟨fun cannot => both 1 (saves.1 cannot), fun can => both 0 (saves.2 can)⟩

end Plan

/-! ## Faithful exit codes -/

/-- The scan that `options` ask for selects no file. -/
def SelectsNothing (environment : Environment) (disk : Disk) (options : ScanOptions) : Prop :=
  ∃ plan, selected environment disk options = .ok (plan, [])

/-- The scan that `options` ask for finds something hazardous in a selected file. -/
def FindsHazard (parser : Parser) (environment : Environment) (disk : Disk)
    (options : ScanOptions) : Prop :=
  ∃ plan files, selected environment disk options = .ok (plan, files) ∧
    ∃ file ∈ files, ∃ findings, plan.findingsOf parser disk file = .ok findings ∧ findings ≠ []

/-- A step of the scan that `options` ask for fails: the files cannot be `selected`, one of them
cannot be scanned, or there are files and the report that nothing was found cannot be saved
(`CannotSave`). -/
def Breaks (parser : Parser) (environment : Environment) (disk : Disk) (options : ScanOptions) :
    Prop :=
  (∃ failure, selected environment disk options = .error failure) ∨
    ∃ plan files, selected environment disk options = .ok (plan, files) ∧
      ((∃ file ∈ files, ∃ failure, plan.findingsOf parser disk file = .error failure) ∨
        files ≠ [] ∧ CannotSave disk options.output [])

/-- The exit `code` says what was selected and found. -/
structure Faithful (parser : Parser) (environment : Environment) (disk : Disk)
    (options : ScanOptions) (code : Int) : Prop where
  /-- It is 3 exactly if nothing was selected. -/
  incomplete : code = 3 ↔ SelectsNothing environment disk options
  /-- It is 1 exactly if something was found. -/
  hazardsFound : code = 1 ↔ FindsHazard parser environment disk options
  /-- It is 0 in all other cases. -/
  success : code = 0 ↔ ¬ SelectsNothing environment disk options ∧
    ¬ FindsHazard parser environment disk options

section

variable {plan : Plan} {files : List String}

/-- In terms of what is `selected`, `SelectsNothing` says that there are no `files`. -/
theorem selectsNothing_iff (chosen : selected environment disk options = .ok (plan, files)) :
    SelectsNothing environment disk options ↔ files = [] := by
  simp [SelectsNothing, chosen]

/-- In terms of what is `selected`, `FindsHazard` says that `findingsOf` one of the `files` is not
empty. -/
theorem findsHazard_iff (chosen : selected environment disk options = .ok (plan, files)) :
    FindsHazard parser environment disk options ↔
      ∃ file ∈ files, ∃ findings, plan.findingsOf parser disk file = .ok findings ∧
        findings ≠ [] := by
  simp [FindsHazard, chosen]

/-- In terms of what is `selected`, `Breaks` says that `findingsOf` fails for one of the `files`, or
that there are some and `CannotSave`. -/
theorem breaks_iff (chosen : selected environment disk options = .ok (plan, files)) :
    Breaks parser environment disk options ↔
      (∃ file ∈ files, ∃ failure, plan.findingsOf parser disk file = .error failure) ∨
        files ≠ [] ∧ CannotSave disk options.output [] := by
  simp [Breaks, chosen]

/-- If all files can be scanned, `FindsHazard` says that the findings together are not empty. -/
theorem findsHazard_iff_flatten_ne_nil {lists : List (List Finding)}
    (chosen : selected environment disk options = .ok (plan, files))
    (scanned : files.mapM (plan.findingsOf parser disk) = .ok lists) :
    FindsHazard parser environment disk options ↔ lists.flatten ≠ [] := by
  rw [findsHazard_iff chosen, Ne, List.flatten_eq_nil_iff]
  constructor
  · rintro ⟨file, member, findings, found, notEmpty⟩ allEmpty
    obtain ⟨others, isList, same⟩ := exists_mem_of_mapM_eq_ok scanned member
    rw [found] at same
    cases same
    exact notEmpty (allEmpty findings isList)
  · intro notAllEmpty
    push Not at notAllEmpty
    obtain ⟨findings, isList, notEmpty⟩ := notAllEmpty
    obtain ⟨file, member, found⟩ := exists_of_mem_mapM scanned isList
    exact ⟨file, member, findings, found, notEmpty⟩

/-- If all files can be scanned, `Breaks` says that there are some and `CannotSave`. -/
theorem breaks_iff_cannotSave {lists : List (List Finding)}
    (chosen : selected environment disk options = .ok (plan, files))
    (scanned : files.mapM (plan.findingsOf parser disk) = .ok lists) :
    Breaks parser environment disk options ↔ files ≠ [] ∧ CannotSave disk options.output [] := by
  rw [breaks_iff chosen]
  refine or_iff_right ?_
  rintro ⟨file, member, failure, fails⟩
  obtain ⟨findings, _, found⟩ := exists_mem_of_mapM_eq_ok scanned member
  rw [fails] at found
  cases found

end

/-- The exit code of `scan`: 3 if `SelectsNothing`, 1 if `FindsHazard` or `Breaks`, and 0
otherwise. -/
theorem exits_scan_cases (parser : Parser) (environment : Environment) (disk : Disk)
    (options : ScanOptions) :
    (Run.Exits disk (scan parser environment options) 3 ∧ SelectsNothing environment disk options ∧
      ¬ FindsHazard parser environment disk options ∧ ¬ Breaks parser environment disk options) ∨
    (Run.Exits disk (scan parser environment options) 1 ∧
      ¬ SelectsNothing environment disk options ∧
      (FindsHazard parser environment disk options ∨ Breaks parser environment disk options)) ∨
    (Run.Exits disk (scan parser environment options) 0 ∧
      ¬ SelectsNothing environment disk options ∧
      ¬ FindsHazard parser environment disk options ∧
      ¬ Breaks parser environment disk options) := by
  have selects := follows_selectTargets environment disk options
  rw [scan_eq]
  -- The cases are those of the steps: the selection, the scan of the files, the findings, the
  -- report.
  cases chosen : selected environment disk options with
  | error failure =>
      rw [chosen] at selects
      refine .inr (.inl ⟨selects.exits_stop _, ?_, .inr (.inl ⟨failure, chosen⟩)⟩)
      rintro ⟨plan, nothing⟩
      rw [chosen] at nothing
      cases nothing
  | ok choice =>
      obtain ⟨plan, files⟩ := choice
      rw [chosen] at selects
      rw [selectsNothing_iff chosen]
      by_cases matched : files = []
      · subst matched
        refine .inl ⟨selects.exits_seq (plan.exits_scanSelected_nil parser disk options),
          rfl, ?_, ?_⟩
        · simp [findsHazard_iff chosen]
        · simp [breaks_iff chosen]
      · cases scanned : files.mapM (plan.findingsOf parser disk) with
        | error failure =>
            obtain ⟨file, member, fails⟩ := exists_of_mapM_eq_error scanned
            have exits := Plan.exits_scanSelected_of_error options matched scanned
            have breaks := (breaks_iff chosen).mpr (.inl ⟨file, member, failure, fails⟩)
            exact .inr (.inl ⟨selects.exits_seq exits, matched, .inr breaks⟩)
        | ok lists =>
            have found := findsHazard_iff_flatten_ne_nil chosen scanned
            have broken := breaks_iff_cannotSave chosen scanned
            by_cases clean : lists.flatten = []
            · have unfound := fun hazard => found.mp hazard clean
              have exits := Plan.exits_scanSelected_of_eq_nil options matched scanned clean
              by_cases cannot : CannotSave disk options.output []
              · exact .inr (.inl ⟨selects.exits_seq (exits.1 cannot), matched,
                  .inr (broken.mpr ⟨matched, cannot⟩)⟩)
              · exact .inr (.inr ⟨selects.exits_seq (exits.2 cannot), matched, unfound,
                  fun breaks => cannot (broken.mp breaks).2⟩)
            · have exits := Plan.exits_scanSelected_of_ne_nil options matched scanned clean
              exact .inr (.inl ⟨selects.exits_seq exits, matched, .inl (found.mpr clean)⟩)

/-! ## A report that cannot be announced -/

/-- A disk with one Makefile, `text`. -/
def makefileDisk (text : String) : Disk :=
  .ofFile "Makefile" text.toByteArray

/-- The path of a report that closes a style when it is printed. -/
def reportPath : String :=
  "r[/]"

/-- A request to scan the Makefile and to put the report at `reportPath`. -/
def announcing : ScanOptions :=
  ⟨["Makefile"], none, none, none, some reportPath, "."⟩

/-- The arguments of the request `announcing`. -/
def announcingArguments : List String :=
  ["scan", "--output", reportPath, "Makefile"]

/-- There is no configuration file on `makefileDisk text`. -/
theorem load_makefileDisk (text : String) :
    Config.load (makefileDisk text) [] "." = .ok (.standard, []) := by
  refine Config.load_of_missing ?_
  rw [show (Path.ofText ".").child Config.fileName = ⟨"", [Config.fileName]⟩ by decide,
    Disk.probe, makefileDisk, Disk.find_ofFile (by decide), if_neg (by decide)]

/-- For `announcing`, the Makefile is `selected` by `standardPlan`. -/
theorem selected_announcing (text : String) :
    selected [] (makefileDisk text) announcing = .ok (standardPlan, ["Makefile"]) := by
  have place : Path.ofText "Makefile" = ⟨"", ["Makefile"]⟩ := by decide
  have found : (makefileDisk text).probe (Path.ofText "Makefile") =
      .ok (some (.file text.toByteArray)) := by
    rw [place, Disk.probe, makefileDisk, Disk.find_ofFile_self (by decide)]
  have expanded : standardPlan.walker.expand (makefileDisk text) "Makefile" =
      .done (standardPlan.walker.walkFile (Path.ofText "Makefile")) :=
    Walker.expand_of_probe_file (by decide) (by decide) found
  have targets : standardPlan.walker.expandAll (makefileDisk text) ["Makefile"] =
      ([("Makefile", standardPlan.walker.walkFile ⟨"", ["Makefile"]⟩)], none) := by
    rw [Walker.expandAll_cons expanded, place]
    rfl
  -- Only one target is expanded, to the file itself.
  have files : standardPlan.filesOf (makefileDisk text) ["Makefile"] = .ok ["Makefile"] := by
    rw [Plan.filesOf, if_neg (fun broken => Bool.noConfusion broken.1), Walker.select, targets]
    exact eq_ok_of_toOption_eq_some (by decide +kernel)
  have made : Plan.make .standard announcing = .ok standardPlan := make_standard ["Makefile"] _ "."
  rw [selected, show announcing.root = "." from rfl, load_makefileDisk, ok_bind, made, ok_bind,
    show announcing.targets = ["Makefile"] from rfl, files]
  rfl

/-- The arguments `announcingArguments` ask for `announcing`. -/
theorem readRequest_announcing (text : String) :
    readRequest (makefileDisk text) announcingArguments = .ok (.scan announcing) := by
  have outer :
      splitArguments outerShapes false announcingArguments = .ok ⟨[], announcingArguments⟩ :=
    eq_ok_of_toOption_eq_some (by decide)
  have inner : splitArguments scanShapes true announcingArguments.tail =
      .ok ⟨[⟨"--output", reportPath⟩], ["Makefile"]⟩ := eq_ok_of_toOption_eq_some (by decide)
  -- Nothing stands at `reportPath`, so no directory is in the way.
  have free : (makefileDisk text).isDirectory (Path.ofText reportPath) = false := by
    have place : Path.ofText reportPath = ⟨"", ["r[", "]"]⟩ := by decide
    have short : Disk.isTooLong "r[" = false := by decide
    rw [place, Disk.isDirectory, Disk.found?, Disk.find, if_neg (by decide),
      if_neg (by decide)]
    simp [Disk.startOf, Disk.locate, Disk.descend, makefileDisk, Disk.ofFile, short,
      List.lookup_cons]
  have noneInTheWay : directoryInTheWay? (makefileDisk text) announcing = none := by
    simp [directoryInTheWay?, announcing, Option.filter, free]
  have read : readScan (makefileDisk text) announcingArguments.tail = .ok (.scan announcing) := by
    rw [readScan, inner, ok_bind, if_neg (by decide), if_neg (by decide)]
    split
    · rename_i path inTheWay
      cases inTheWay.symm.trans noneInTheWay
    · rfl
  rw [readRequest, outer, ok_bind]
  exact read

/-- The report of `announcing` cannot be announced, as its path closes a style that is not open. -/
theorem cannotSave_announcing (disk : Disk) (findings : List Finding) :
    CannotSave disk announcing.output findings := by
  have unshown : (Output.markupLine s!"Results saved to: {reportPath}").toOption = none := by
    decide +kernel
  refine ⟨reportPath, rfl, by decide, .inr ?_⟩
  cases shown : Output.markupLine s!"Results saved to: {reportPath}" with
  | error failure => exact ⟨failure, rfl⟩
  | ok line =>
      rw [shown] at unshown
      cases unshown

/-- The findings in a Makefile below the limit are those of `Scan.scanMakefile` in its text, with
`foldNewlines`. -/
theorem Plan.findingsOf_makefile (plan : Plan) (parser : Parser) {file text : String}
    (kind : FileKind.ofPath (Path.ofText file).text = .makefile)
    (small : plan.limit.excludes text.utf8ByteSize = false)
    (read : disk.read (Path.ofText file) = .ok text.toByteArray) :
    plan.findingsOf parser disk file = .ok (Scan.scanMakefile plan.rules (Path.ofText file).text
      (String.ofList (Text.foldNewlines text.toList))) := by
  have decoded : Text.decode? text.toByteArray = some text := Text.decode?_eq_some_iff.mpr rfl
  have checked : Scan.checkSize disk (some plan.limit) (Path.ofText file) = .ok () := by
    rw [Scan.checkSize, Disk.size_of_read read]
    exact if_neg (ne_true_of_eq_false small)
  have content : Scan.readText disk (Path.ofText file) =
      .ok (String.ofList (Text.foldNewlines text.toList)) := by
    rw [Scan.readText, read]
    simp only [decoded]
  rw [Plan.findingsOf, scanFile, Scan.readFile, checked, ok_bind, content]
  simp only [Scan.scanContent, kind]
  rfl

/-- The only file of `makefileDisk text` is read as `text`. -/
theorem read_makefileDisk (text : String) :
    (makefileDisk text).read (Path.ofText "Makefile") = .ok text.toByteArray := by
  rw [show Path.ofText "Makefile" = ⟨"", ["Makefile"]⟩ by decide, Disk.read, makefileDisk,
    Disk.find_ofFile_self (by decide)]
  rfl

/-- The exit code of an accepted scan is 1 if `Breaks`. It is `Faithful` exactly if `Breaks` implies
`FindsHazard`: no step fails, or something hazardous is found all the same. -/
theorem exitCode_faithful_iff (parser : Parser) (environment : Environment) {disk : Disk}
    {arguments : List String} {options : ScanOptions}
    (accepted : readRequest disk arguments = .ok (.scan options)) :
    (Breaks parser environment disk options →
      (run parser environment disk arguments).exitCode = 1) ∧
    (Faithful parser environment disk options (run parser environment disk arguments).exitCode ↔
      (Breaks parser environment disk options → FindsHazard parser environment disk options)) := by
  rcases exits_scan_cases parser environment disk options with
    ⟨exits, nothing, unfound, sound⟩ | ⟨exits, something, reason⟩ |
    ⟨exits, something, unfound, sound⟩
  · rw [exitCode_run accepted (exits.guarded "scan")]
    exact ⟨fun breaks => absurd breaks sound, fun _ breaks => absurd breaks sound, fun _ =>
      ⟨by simp [nothing], by simp [unfound], by simp [nothing]⟩⟩
  · rw [exitCode_run accepted (exits.guarded "scan")]
    refine ⟨fun _ => rfl, fun faithful _ => faithful.hazardsFound.mp rfl, fun excused => ?_⟩
    have found : FindsHazard parser environment disk options := reason.elim id excused
    exact ⟨by simp [something], by simp [found], by simp [found]⟩
  · rw [exitCode_run accepted (exits.guarded "scan")]
    exact ⟨fun breaks => absurd breaks sound, fun _ breaks => absurd breaks sound, fun _ =>
      ⟨by simp [something], by simp [unfound], by simp [something, unfound]⟩⟩

/-- A scan of `hazardousText` that cannot announce its report exits with 1, which is `Faithful`. -/
theorem exitCode_faithful_iff_hazardous :
    readRequest (makefileDisk hazardousText) announcingArguments = .ok (.scan announcing) ∧
    ∀ parser, Breaks parser [] (makefileDisk hazardousText) announcing ∧
      FindsHazard parser [] (makefileDisk hazardousText) announcing ∧
      (run parser [] (makefileDisk hazardousText) announcingArguments).exitCode = 1 ∧
      Faithful parser [] (makefileDisk hazardousText) announcing
        (run parser [] (makefileDisk hazardousText) announcingArguments).exitCode := by
  have accepted := readRequest_announcing hazardousText
  have chosen := selected_announcing hazardousText
  refine ⟨accepted, fun parser => ?_⟩
  have breaks : Breaks parser [] (makefileDisk hazardousText) announcing :=
    (breaks_iff chosen).mpr (.inr ⟨by decide, cannotSave_announcing _ _⟩)
  have finds : FindsHazard parser [] (makefileDisk hazardousText) announcing :=
    (findsHazard_iff chosen).mpr ⟨"Makefile", List.mem_singleton_self _, _,
      standardPlan.findingsOf_makefile parser (by decide) (by decide)
        (read_makefileDisk hazardousText), by decide⟩
  have both := exitCode_faithful_iff parser [] accepted
  exact ⟨breaks, finds, both.1 breaks, both.2.mpr fun _ => finds⟩

/-- A scan of an empty Makefile that cannot announce its report exits with 1, too, although a file
is selected and nothing is found. -/
theorem exitCode_announcing_empty :
    readRequest (makefileDisk "") announcingArguments = .ok (.scan announcing) ∧
    ¬ SelectsNothing [] (makefileDisk "") announcing ∧
    ∀ parser, ¬ FindsHazard parser [] (makefileDisk "") announcing ∧
      (run parser [] (makefileDisk "") announcingArguments).exitCode = 1 := by
  have accepted := readRequest_announcing ""
  have chosen := selected_announcing ""
  have something : ¬ SelectsNothing [] (makefileDisk "") announcing := by
    rw [selectsNothing_iff chosen]
    exact List.cons_ne_nil _ _
  refine ⟨accepted, something, fun parser => ?_⟩
  -- Nothing is found in an empty text.
  have clean : standardPlan.findingsOf parser (makefileDisk "") "Makefile" = .ok [] := by
    rw [standardPlan.findingsOf_makefile parser (by decide) (by decide)
      (read_makefileDisk "")]
    exact eq_ok_of_toOption_eq_some (by decide)
  have unfound : ¬ FindsHazard parser [] (makefileDisk "") announcing := by
    rw [findsHazard_iff chosen]
    rintro ⟨file, member, findings, found, notEmpty⟩
    cases List.mem_singleton.mp member
    rw [clean] at found
    cases found
    exact notEmpty rfl
  have breaks : Breaks parser [] (makefileDisk "") announcing :=
    (breaks_iff chosen).mpr (.inr ⟨List.cons_ne_nil _ _, cannotSave_announcing _ _⟩)
  refine ⟨unfound, ?_⟩
  rcases exits_scan_cases parser [] (makefileDisk "") announcing with
    ⟨_, nothing, _⟩ | ⟨exits, _⟩ | ⟨_, _, _, sound⟩
  · exact absurd nothing something
  · exact exitCode_run accepted (exits.guarded "scan")
  · exact absurd breaks sound

end Footgun.Cli
