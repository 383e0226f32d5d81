import Footgun.Proofs.DiskPlaces
import Footgun.Proofs.ExitStatus

/-! # Where the findings of a scan go

A scan that gets as far as its findings shows them in four places: each of them is reported in the
journal, they are counted in the line above the table, they are the rows of the table, and they are
in the report if one is asked for. Main definitions:

* `noticeOf`, `cellsOf`, `objectOf` — what the journal, the table and the report say about a
  finding;
* `reported`, `notice?` — the findings that events report, and the level and the text they do it
  with;
* `Run.Quiet`, `Run.Adds` — a step that prints nothing, or only prints more, and reports no finding;
* `Shows` — a session shows findings in all these places.

The main statement is `shows_run`. -/

namespace Footgun.Cli

open Journal (Event Level)
open Syntax (Parser)
open Scan (scanFile)

/-! ## What is said about a finding -/

/-- The text of the entry about `finding` in the journal: its line, its column and its file. -/
def noticeOf (finding : Finding) : String :=
  "unsafe code found at position " ++ toString finding.position.line ++ "," ++
    toString finding.position.column ++ " in " ++ finding.path

/-- The cells of the row of `finding` in the table: its location, its command and its message. -/
def cellsOf (finding : Finding) : List String :=
  [finding.path ++ ":" ++ toString finding.position.line ++ ":" ++ toString finding.position.column,
    finding.command, finding.message]

/-- The object of `finding` in the report. It has a message only if there is something in it. -/
def objectOf (finding : Finding) : Json :=
  .obj ([("file", .str finding.path), ("line", .int finding.position.line),
    ("column", .int finding.position.column), ("command", .str finding.command)] ++
    if finding.message = "" then [] else [("message", .str finding.message)])

/-! ## Reported findings -/

/-- The finding that an event reports. -/
def foundIn? : Event → Option Finding
  | .found finding => some finding
  | _ => none

/-- The findings that `events` report, in order. -/
def reported (events : List Event) : List Finding :=
  events.filterMap foundIn?

/-- The level and the text of `event`, if it reports a finding. -/
def notice? (event : Event) : Option (Level × String) :=
  (foundIn? event).map fun _ => (event.level, event.message)

/-- Of events, `notice?` shows each finding that is `reported`, as a warning with `noticeOf` it. -/
theorem filterMap_notice? (events : List Event) :
    events.filterMap notice? = (reported events).map fun finding =>
      (.warning, noticeOf finding) := by
  have each : ∀ event, notice? event = (foundIn? event).map fun finding =>
      (.warning, noticeOf finding) := by
    intro event
    cases event <;> rfl
  rw [reported, List.map_filterMap, funext each]

/-- Without events nothing is `reported`. -/
@[simp] theorem reported_nil : reported [] = [] := rfl

/-- What is `reported` by events after others is that by both. -/
@[simp] theorem reported_append (first second : List Event) :
    reported (first ++ second) = reported first ++ reported second :=
  List.filterMap_append

/-- The events `.found` report their findings. -/
theorem reported_map_found (findings : List Finding) :
    reported (findings.map .found) = findings := by
  rw [reported, List.filterMap_map]
  exact List.filterMap_some

/-- Events that are made in a way that reports nothing report nothing. -/
theorem reported_map {α : Type} {event : α → Event} (silent : ∀ item, foundIn? (event item) = none)
    (items : List α) : reported (items.map event) = [] := by
  rw [reported, List.filterMap_map, List.filterMap_eq_nil_iff]
  exact fun item _ => silent item

/-! ## The journals of the first steps -/

/-- Steps that add nothing to what is `reported` add nothing together. -/
theorem reported_foldl {σ α : Type} {step : σ × List Event → α → σ × List Event}
    (keeps : ∀ state item, reported (step state item).2 = reported state.2) (items : List α)
    (state : σ × List Event) : reported (items.foldl step state).2 = reported state.2 := by
  induction items generalizing state with
  | nil => rfl
  | cons first rest ih => rw [List.foldl_cons, ih, keeps]

section

variable {parser : Parser} {disk : Disk} {environment : Environment} {config : Config}
  {findings : List Finding} {events : List Event}

/-- Merging a field reports no finding. -/
theorem reported_mergeField (path group : String) (state : Config × List Event)
    (field : String × Json) :
    reported (Config.mergeField path group state field).2 = reported state.2 := by
  rw [Config.mergeField]
  split
  · rfl
  · rw [reported_append]
    exact List.append_nil _

/-- Merging a group reports no finding. -/
theorem reported_mergeGroup (path : String) (document : Json) (state : Config × List Event)
    (group : String) :
    reported (Config.mergeGroup path document state group).2 = reported state.2 := by
  rw [Config.mergeGroup]
  split
  · exact reported_foldl (reported_mergeField path group) _ state
  · rfl

/-- Merging a variable reports no finding. -/
theorem reported_mergeVariable (environment : Environment) (state : Config × List Event)
    (key : Key) :
    reported (Config.mergeVariable environment state key).2 = reported state.2 := by
  rw [Config.mergeVariable]
  split
  · rfl
  · split
    · rfl
    · rw [reported_append]
      exact List.append_nil _

/-- Loading a file reports no finding. -/
theorem reported_loadFile {path : Path}
    (loaded : Config.loadFile disk path = .ok (config, events)) : reported events = [] := by
  -- Only merging a document tells more than that the file is left out.
  rw [Config.loadFile] at loaded
  split at loaded
  · cases loaded
    rfl
  · cases loaded
    rfl
  split at loaded
  · cases loaded
    rfl
  split at loaded
  · cases loaded
  split at loaded
  · cases loaded
    rfl
  · cases loaded
  · cases loaded
  · rename_i document _
    have merged : reported (Config.mergeDocument path.text document .standard).2 = [] :=
      reported_foldl (reported_mergeGroup path.text document) Key.groups (.standard, [])
    rw [Except.ok.inj loaded] at merged
    exact merged

/-- Loading a configuration by `Config.load` reports no finding. -/
theorem reported_load {root : String}
    (loaded : Config.load disk environment root = .ok (config, events)) : reported events = [] := by
  obtain ⟨state, read, result⟩ := exists_of_bind_eq_ok loaded
  have merged := reported_foldl (reported_mergeVariable environment) Key.all state
  rw [Except.ok.inj result, reported_loadFile read] at merged
  exact merged

/-- The events of `pathPolicy` report no finding. -/
theorem reported_pathPolicy (rules : RuleSet) (path : String) (script : Script) :
    reported (Scan.pathPolicy rules path script).2 = [] := by
  rw [Scan.pathPolicy, reported_append, reported_map fun _ => rfl]
  split
  · rfl
  · exact reported_map (fun _ => rfl) _

/-- The events of `scanContent` report no finding. -/
theorem reported_scanContent {rules : RuleSet} {resolvePaths : Bool} {path content : String}
    (scanned : Scan.scanContent parser rules resolvePaths path content = .ok (findings, events)) :
    reported events = [] := by
  rcases Scan.scanContent_eq_ok scanned with same | ⟨script, same⟩ | ⟨commands, same⟩
  · cases same
    rfl
  · rw [← reported_pathPolicy rules path script, ← same]
  · cases same
    rfl

/-- The events of `scanFile` report no finding. -/
theorem reported_scanFile {rules : RuleSet} {resolvePaths : Bool} {limit : Option Limit}
    {path : Path}
    (scanned : scanFile parser disk rules resolvePaths limit path = .ok (findings, events)) :
    reported events = [] := by
  rw [scanFile] at scanned
  split at scanned
  · cases scanned
  · rename_i obstacle _ _
    cases scanned
    cases obstacle <;> rfl
  · split at scanned
    · rename_i result
      cases scanned
      exact (reported_append [_] _).trans (reported_scanContent result)
    · cases scanned
      rfl
    · cases scanned

end

/-! ## Quiet steps -/

namespace Run

variable {α β : Type}

/-- The `step` only adds to what is printed, and reports no finding. -/
def Adds (step : Run α) : Prop :=
  ∀ session : Session, (∃ more, (step.run session).2.output = session.output ++ more) ∧
    reported (step.run session).2.events = reported session.events

/-- The `step` prints nothing and reports no finding. -/
def Quiet (step : Run α) : Prop :=
  ∀ session : Session, (step.run session).2.output = session.output ∧
    reported (step.run session).2.events = reported session.events

/-- Steps with `Adds` one after the other have `Adds`. -/
theorem Adds.bind {first : Run α} {next : α → Run β} (here : Adds first)
    (later : ∀ value, Adds (next value)) : Adds (first >>= next) := by
  intro session
  obtain ⟨⟨more, prints⟩, keeps⟩ := here session
  rw [run_bind]
  generalize first.run session = ending at prints keeps
  rcases ending with ⟨stop | value, after⟩
  · exact ⟨⟨more, prints⟩, keeps⟩
  · obtain ⟨⟨others, printsThen⟩, keepsThen⟩ := later value after
    refine ⟨⟨more ++ others, ?_⟩, keepsThen.trans keeps⟩
    rw [printsThen, prints, String.append_assoc]

/-- Steps with `Quiet` one after the other have `Quiet`. -/
theorem Quiet.bind {first : Run α} {next : α → Run β} (here : Quiet first)
    (later : ∀ value, Quiet (next value)) : Quiet (first >>= next) := by
  intro session
  obtain ⟨prints, keeps⟩ := here session
  rw [run_bind]
  generalize first.run session = ending at prints keeps
  rcases ending with ⟨stop | value, after⟩
  · exact ⟨prints, keeps⟩
  · obtain ⟨printsThen, keepsThen⟩ := later value after
    exact ⟨printsThen.trans prints, keepsThen.trans keeps⟩

/-- A step with `Quiet` has `Adds`. -/
theorem Quiet.adds {step : Run α} (quiet : Quiet step) : Adds step := fun session =>
  ⟨⟨"", by rw [(quiet session).1, String.append_empty]⟩, (quiet session).2⟩

/-- Giving a value is `Quiet`. -/
theorem quiet_pure (value : α) : Quiet (pure value : Run α) :=
  fun _ => ⟨rfl, rfl⟩

/-- Stopping is `Quiet`. -/
theorem quiet_throw (stop : Stop) : Quiet (throw stop : Run α) :=
  fun _ => ⟨rfl, rfl⟩

/-- Stopping is `Quiet`, whatever would come next. -/
theorem quiet_stop (stop : Stop) (next : α → Run β) : Quiet ((throw stop : Run α) >>= next) :=
  fun _ => ⟨rfl, rfl⟩

/-- Looking at the session is `Quiet`. -/
theorem quiet_get : Quiet (get : Run Session) :=
  fun _ => ⟨rfl, rfl⟩

/-- Telling events that report no finding is `Quiet`. -/
theorem quiet_tell {events : List Event} (silent : reported events = []) : Quiet (tell events) := by
  intro session
  refine ⟨rfl, ?_⟩
  change reported (session.events ++ events) = reported session.events
  rw [reported_append, silent, List.append_nil]

/-- Going on with a result or a failure is `Quiet`. -/
theorem quiet_ofExcept (computation : Except Failure α) : Quiet (ofExcept computation) := by
  cases computation with
  | error failure => exact quiet_throw _
  | ok value => exact quiet_pure value

/-- Printing a text `Adds` it. -/
theorem adds_print (text : List Char) : Adds (print text) :=
  fun _ => ⟨⟨String.ofList text, rfl⟩, rfl⟩

/-- Finishing has `Adds`. -/
theorem adds_finish (code : ExitCode) : Adds (finish code) :=
  ((quiet_tell rfl).bind fun _ => quiet_throw _).adds

end Run

/-- The step `loadConfig` is `Quiet`. -/
theorem quiet_loadConfig (environment : Environment) (root : String) :
    Run.Quiet (loadConfig environment root) := by
  refine Run.quiet_get.bind fun session => ?_
  cases loaded : Config.load session.disk environment root with
  | error failure => exact Run.quiet_throw _
  | ok result => exact (Run.quiet_tell (reported_load loaded)).bind fun _ => Run.quiet_pure _

/-- The step `selectFiles` is `Quiet`. -/
theorem Plan.quiet_selectFiles (plan : Plan) (targets : List String) :
    Run.Quiet (plan.selectFiles targets) := by
  refine Run.quiet_get.bind fun session => ?_
  rcases plan.walker.expandAll session.disk targets with ⟨expansions, failure?⟩
  dsimp only
  refine (Run.quiet_tell (reported_map (fun _ => rfl) _)).bind fun _ => ?_
  split
  · exact Run.quiet_stop _ _
  · cases failure? with
    | none => exact (Run.quiet_tell rfl).bind fun _ => Run.quiet_pure _
    | some failure => exact Run.quiet_stop _ _

/-- The step `selectTargets` is `Quiet`. -/
theorem quiet_selectTargets (environment : Environment) (options : ScanOptions) :
    Run.Quiet (selectTargets environment options) := by
  refine (quiet_loadConfig environment options.root).bind fun config => ?_
  refine (Run.quiet_ofExcept _).bind fun plan => ?_
  exact (plan.quiet_selectFiles options.targets).bind fun files => Run.quiet_pure _

/-- The step `scanPaths` is `Quiet`. The induction is on `files`. -/
theorem Plan.quiet_scanPaths (plan : Plan) (parser : Parser) (files : List String) :
    Run.Quiet (plan.scanPaths parser files) := by
  have path : ∀ file, Run.Quiet (plan.scanPath parser file) := by
    intro file
    refine Run.quiet_get.bind fun session => ?_
    split
    · rename_i scanned
      exact (Run.quiet_tell (reported_scanFile scanned)).bind fun _ => Run.quiet_pure _
    · exact (Run.quiet_tell rfl).bind fun _ => Run.quiet_throw _
  induction files with
  | nil => exact Run.quiet_pure _
  | cons file rest ih =>
      exact (path file).bind fun findings => ih.bind fun others => Run.quiet_pure _

/-! ## Printing the findings -/

/-- The line above the table, with the numbers of findings and of files. -/
def countLine (findings files : Nat) : String :=
  if findings = 0 then s!"No hazardous commands found ({files} file(s) scanned)" ++ "\n"
  else s!"\nFound {findings} hazardous command(s) in {files} file(s):" ++ "\n"

/-- The table of findings, which has `cellsOf` each of them as its rows. There is none without
findings. -/
def tableOf (findings : List Finding) : Except Failure (List Char) :=
  if findings.isEmpty then .ok []
  else Output.openTable ["Location", "Command", "Detail"] (findings.map cellsOf)

/-- A line is its text and a newline. -/
theorem ofList_line (text : String) : String.ofList (Output.line text.toList) = text ++ "\n" := by
  rw [Output.line, String.ofList_append, String.ofList_toList]

/-- What `printFindings` prints is `countLine`, and then `tableOf findings` if that can be made. -/
theorem run_printFindings (findings : List Finding) (files : Nat) (session : Session) :
    (∀ table, tableOf findings = .ok table →
      (printFindings findings files).run session = (.ok (), { session with
        output := session.output ++ countLine findings.length files ++ String.ofList table })) ∧
    ∀ failure, tableOf findings = .error failure →
      (printFindings findings files).run session = (.error (.failure failure), { session with
        output := session.output ++ countLine findings.length files }) := by
  cases findings with
  | nil =>
      refine ⟨?_, fun failure failed => by cases failed⟩
      rintro table ⟨⟩
      -- Without findings there is a line of its own, and no table.
      have line : countLine 0 files = String.ofList (Output.line
          s!"No hazardous commands found ({files} file(s) scanned)".toList) := (ofList_line _).symm
      rw [List.length_nil, line, show String.ofList [] = "" from rfl, String.append_empty]
      rfl
  | cons finding rest =>
      have line : countLine (finding :: rest).length files = String.ofList (Output.line
          s!"\nFound {(finding :: rest).length} hazardous command(s) in {files} file(s):".toList) :=
        (ofList_line _).symm
      -- The cells are those of the rows that are printed.
      have same : tableOf (finding :: rest) =
          Output.openTable ["Location", "Command", "Detail"] ((finding :: rest).map findingRow) :=
        rfl
      rw [line, same, printFindings, if_neg (by simp)]
      constructor
      · intro table printable
        rw [printable]
        rfl
      · intro failure failed
        rw [failed]
        rfl

/-! ## Saving the report -/

/-- The step `saveReport` has `Adds`. -/
theorem adds_saveReport (output : Option String) (findings : List Finding) :
    Run.Adds (saveReport output findings) := by
  rw [saveReport]
  split
  · exact (Run.quiet_pure _).adds
  · refine Run.quiet_get.adds.bind fun session => ?_
    rcases putReport session.disk _ findings with ⟨disk, failure?⟩
    have changes : Run.Adds (Run.change fun session => { session with disk }) :=
      fun session => ⟨⟨"", String.append_empty.symm⟩, rfl⟩
    refine changes.bind fun _ => ?_
    cases failure? with
    | some failure => exact (Run.quiet_stop _ _).adds
    | none => exact (Run.quiet_ofExcept _).adds.bind fun line => Run.adds_print line

/-- The disk after `saveReport` is that of `putReport`. -/
theorem disk_run_saveReport {path : String} (notEmpty : path ≠ "") (findings : List Finding)
    (session : Session) :
    ((saveReport (some path) findings).run session).2.disk =
      (putReport session.disk path findings).1 := by
  have asked : (some path).filter (· ≠ "") = some path := by simp [Option.filter, notEmpty]
  have looked : (get : Run Session).run session = (.ok session, session) := rfl
  rw [saveReport, asked]
  dsimp only
  rw [Run.run_bind, looked]
  rcases put : putReport session.disk path findings with ⟨written, failure?⟩
  dsimp only
  rw [put]
  -- The announcement does not touch the disk.
  cases failure? with
  | some failure => rfl
  | none =>
      cases Output.markupLine s!"Results saved to: {path}" with
      | error failure => rfl
      | ok line => rfl

/-- A report that `putReport` puts on the disk is read back there. -/
theorem read_of_putReport {disk written : Disk} {path : String} {findings : List Finding}
    (put : putReport disk path findings = (written, none)) :
    written.read (Path.ofText path) = .ok (Output.report findings).toUTF8 := by
  rw [putReport] at put
  split at put
  · cases put
  · cases put
  · split at put
    · cases put
    · rename_i result
      cases put
      exact Disk.read_of_write result

/-! ## Sessions that show findings -/

/-- A session that started on `disk` shows the `findings` in a number of `files`: in the journal, in
the numbers that are printed, in the table if it can be printed, and then in the report, if one is
asked for that can be put on the disk. -/
structure Shows (disk : Disk) (options : ScanOptions) (files : Nat) (findings : List Finding)
    (session : Session) : Prop where
  /-- The journal reports the findings. -/
  journal : reported session.events = findings
  /-- Its entries for them are warnings that say where they are. -/
  notices : session.events.filterMap notice? = findings.map fun finding =>
    (.warning, noticeOf finding)
  /-- The output starts with their number. -/
  count : ∃ more, session.output = countLine findings.length files ++ more
  /-- They are the rows of the table behind that. -/
  table : ∀ table, tableOf findings = .ok table →
    ∃ more, session.output = countLine findings.length files ++ String.ofList table ++ more
  /-- They are the entries of the report, which also has their number. -/
  report : ∀ path table written, options.output = some path → path ≠ "" →
    tableOf findings = .ok table → putReport disk path findings = (written, none) →
    session.disk = written ∧ written.read (Path.ofText path) = .ok (Json.pretty (.obj
      [("findings", .arr (findings.map objectOf)), ("total", .int findings.length)])).toUTF8

variable {parser : Parser} {environment : Environment} {disk : Disk} {options : ScanOptions}
  {plan : Plan} {files : List String} {lists : List (List Finding)} {session : Session}

/-- What a session `Shows` depends on its disk, its output and what its events report. -/
theorem Shows.congr {findings : List Finding} {count : Nat} {other : Session}
    (shown : Shows disk options count findings session) (sameDisk : other.disk = session.disk)
    (sameOutput : other.output = session.output)
    (sameReported : reported other.events = reported session.events) :
    Shows disk options count findings other := by
  refine ⟨sameReported.trans shown.journal, ?_, ?_, ?_, ?_⟩
  · rw [filterMap_notice?, sameReported, shown.journal]
  · rw [sameOutput]
    exact shown.count
  · rw [sameOutput]
    exact shown.table
  · rw [sameDisk]
    exact shown.report

/-- A session that has `reported` the findings and printed nothing `Shows` them after
`printFindings` and `saveReport`. -/
theorem shows_printFindings {findings : List Finding} (count : Nat) (code : ExitCode)
    (same : session.disk = disk) (blank : session.output = "")
    (told : reported session.events = findings) :
    Shows disk options count findings ((printFindings findings count >>= fun _ =>
      saveReport options.output findings >>= fun _ => Run.finish code).run session).2 := by
  subst same
  obtain ⟨printed, unprinted⟩ := run_printFindings findings count session
  rw [blank, String.empty_append] at printed unprinted
  rw [Run.run_bind]
  cases shown : tableOf findings with
  | error failure =>
      -- The command stops here, and what was told and printed before stays.
      rw [unprinted failure shown]
      refine ⟨told, by rw [filterMap_notice?, told], ⟨"", String.append_empty.symm⟩,
        fun table printable => ?_, fun path table written _ _ printable => ?_⟩
      · cases shown.symm.trans printable
      · cases shown.symm.trans printable
  | ok table =>
      rw [printed table shown]
      dsimp only
      -- What comes behind the table only adds to the output.
      obtain ⟨⟨more, prints⟩, keeps⟩ :=
        (adds_saveReport options.output findings).bind (fun _ => Run.adds_finish code)
          { session with output := countLine findings.length count ++ String.ofList table }
      refine ⟨keeps.trans told, by rw [filterMap_notice?, keeps, told],
        ⟨String.ofList table ++ more, ?_⟩, fun other printable => ⟨more, ?_⟩, ?_⟩
      · rw [prints, String.append_assoc]
      · cases shown.symm.trans printable
        exact prints
      · intro path _ written asked notEmpty _ put
        refine ⟨?_, read_of_putReport put⟩
        have saved := disk_run_saveReport notEmpty findings
          { session with output := countLine findings.length count ++ String.ofList table }
        rw [put] at saved
        rw [asked, Run.run_bind]
        generalize (saveReport (some path) findings).run _ = ending at saved ⊢
        rcases ending with ⟨stop | value, after⟩
        · exact saved
        · exact saved

/-- A session that has reported and printed nothing `Shows` what is found in the `files` after
`scanSelected`. -/
theorem Plan.shows_scanSelected (same : session.disk = disk) (blank : session.output = "")
    (silent : reported session.events = []) (matched : files ≠ [])
    (scanned : files.mapM (plan.findingsOf parser disk) = .ok lists) :
    Shows disk options files.length lists.flatten
      ((plan.scanSelected parser options files).run session).2 := by
  obtain ⟨after, kept, gives⟩ := plan.follows_scanPaths parser disk files session same
  obtain ⟨printed, told⟩ := plan.quiet_scanPaths parser files session
  rw [scanned] at gives
  rw [gives] at printed told
  replace printed : after.output = "" := printed.trans blank
  replace told : reported (after.events ++ lists.flatten.map .found) = lists.flatten := by
    rw [reported_append, told.trans silent, reported_map_found, List.nil_append]
  rw [scanSelected, if_neg (by simpa using matched), Run.run_bind, gives]
  exact shows_printFindings files.length _ kept printed told

/-- A run whose arguments ask for a scan `Shows` what is found in the `files` that are
`selected`. -/
theorem shows_run {arguments : List String}
    (accepted : readRequest disk arguments = .ok (.scan options))
    (chosen : selected environment disk options = .ok (plan, files)) (matched : files ≠ [])
    (scanned : files.mapM (plan.findingsOf parser disk) = .ok lists) :
    Shows disk options files.length lists.flatten
      (run parser environment disk arguments).session := by
  obtain ⟨after, kept, gives⟩ :=
    follows_selectTargets environment disk options (Session.start disk) rfl
  obtain ⟨printed, told⟩ := quiet_selectTargets environment options (Session.start disk)
  rw [chosen] at gives
  rw [gives] at printed told
  have inside : Shows disk options files.length lists.flatten
      ((scan parser environment options).run (Session.start disk)).2 := by
    rw [scan_eq, Run.run_bind, gives]
    exact Plan.shows_scanSelected kept printed told matched scanned
  rw [run, accepted]
  change Shows disk options files.length lists.flatten (Result.ofEnding
    ((Run.guarded "scan" (scan parser environment options)).run (Session.start disk))).session
  rw [Run.run_guarded]
  generalize (scan parser environment options).run (Session.start disk) = ending at inside
  -- At the border a failure is told about, which reports no finding.
  rcases ending with ⟨stop | ⟨⟩, final⟩
  · cases stop with
    | exit code => exact inside.congr rfl rfl (by simp [Run.atBorder, Result.ofEnding])
    | refusal message =>
        exact inside.congr rfl rfl (by
          simp [Run.atBorder, Result.ofEnding, Session.withError, Session.withErrors])
    | failure failure =>
        refine inside.congr rfl rfl ?_
        exact (reported_append _ _).trans (List.append_nil _)
  · exact inside.congr rfl rfl rfl

end Footgun.Cli
