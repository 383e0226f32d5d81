import Footgun.Cli.Arguments
import Footgun.Cli.Session
import Footgun.Config.Load
import Footgun.Disk.Write
import Footgun.Output.Report
import Footgun.Output.Table
import Footgun.Rule.Definition
import Footgun.Scan.File
import Footgun.Selection.Basic
import Footgun.Text.CommaList

/-! # The scan command

A scan loads the configuration, makes a `Plan`, selects the files, scans each of them, and then
shows the findings: in the journal, as a table, and in a report if one is asked for. Its exit code
says whether anything was found. -/

namespace Footgun.Cli

open Journal (Event)
open Syntax (Parser)

/-! ## Plans -/

/-- The texts at the front of a list, and whether something other than a text ends them. Values that
count as nothing are passed over. -/
def leadingTexts : List Json → List String × Bool
  | [] => ([], false)
  | value :: rest =>
    if !value.isTruthy then leadingTexts rest
    else
      match value.text? with
      | some text => ((text :: (leadingTexts rest).1), (leadingTexts rest).2)
      | none => ([], true)

/-- How a scan goes about its work. -/
structure Plan where
  /-- How files are selected. -/
  walker : Walker
  /-- Whether something other than a text ends the allowed suffixes: a file that none of them fits
  cannot be dealt with then. -/
  suffixesBroken : Bool
  /-- What is hazardous. -/
  rules : RuleSet
  /-- Whether paths are resolved in shell scripts. -/
  resolvePaths : Bool
  /-- From which size on files are not scanned. -/
  limit : Limit

/-- The allowed suffixes: those asked for if there are any, else those of the configuration. -/
def allowedSuffixes (config : Config) (options : ScanOptions) : List Json :=
  match (options.allowExtensions.map Text.commaList).getD [] with
  | [] => config.list .allowExtensions
  | suffixes => suffixes.map .str

/-- The excluded directories: those asked for, if any list is given, else those of the
configuration. -/
def excludedNames (config : Config) (options : ScanOptions) : Except Failure (List String) :=
  let values := match options.excludeDirs with
    | some list => (Text.commaList list).map .str
    | none => config.list .excludeDirs
  match leadingTexts values with
  | (names, false) => .ok names
  | (_, true) => .error ⟨.noOperation, "the name of an excluded directory is no text"⟩

/-- How many directories deep a scan can walk: as far as a thousand nested calls allow, less those
that a scan has made by then. -/
def maxLevels : Nat := 985

/-- The plan of a configuration and the options of a scan. -/
def Plan.make (config : Config) (options : ScanOptions) : Except Failure Plan := do
  let definition ← Definition.ofJson (config.groupJson "rules")
  let (suffixes, suffixesBroken) := leadingTexts (allowedSuffixes config options)
  let excluded ← excludedNames config options
  return {
    walker :=
      { filter := Filter.ofLists suffixes excluded, followLinks := false, levels := maxLevels }
    suffixesBroken
    rules := definition.ruleSet
    resolvePaths := options.resolvePaths.getD (config .resolvePaths).isOn
    limit := (config .maxFileSize).limit }

/-! ## Steps -/

/-- Loads the configuration of a directory. -/
def loadConfig (environment : Environment) (root : String) : Run Config := do
  let (config, events) ← Run.ofExcept (Config.load (← get).disk environment root)
  Run.tell events
  return config

/-- The contributions of targets that come before a file that the suffixes cannot deal with. -/
def Plan.soundPart (plan : Plan) (expansions : List (String × Expansion)) :
    List (String × Expansion) :=
  if plan.suffixesBroken then expansions.takeWhile (·.2.rejected.isEmpty) else expansions

/-- Selects the files of a list of targets. -/
def Plan.selectFiles (plan : Plan) (targets : List String) : Run (List String) := do
  let (expansions, failure?) := plan.walker.expandAll (← get).disk targets
  let sound := plan.soundPart expansions
  let selection := Walker.gather .zero sound
  Run.tell selection.events
  if sound.length < expansions.length then
    throw (.failure ⟨.wrongType, "an allowed suffix is no text"⟩)
  if let some failure := failure? then throw (.failure failure)
  Run.tell [.selected selection.files.length selection.statistics]
  return selection.files

/-- Scans one file. -/
def Plan.scanPath (plan : Plan) (parser : Parser) (file : String) : Run (List Finding) := do
  let path := Path.ofText file
  match Scan.scanFile parser (← get).disk plan.rules plan.resolvePaths (some plan.limit) path with
  | .ok (findings, events) =>
    Run.tell events
    return findings
  | .error failure =>
    Run.tell [Scan.startEvent path]
    throw (.failure failure)

/-- Scans files one after the other. -/
def Plan.scanPaths (plan : Plan) (parser : Parser) : List String → Run (List Finding)
  | [] => return []
  | file :: rest => do
    let findings ← plan.scanPath parser file
    return findings ++ (← plan.scanPaths parser rest)

/-- The row of a finding in the table. -/
def findingRow (finding : Finding) : List String :=
  [s!"{finding.path}:{finding.position.line}:{finding.position.column}", finding.command,
    finding.message]

/-- Prints what was found in a number of files. -/
def printFindings (findings : List Finding) (files : Nat) : Run Unit := do
  if findings.isEmpty then
    Run.print (Output.line s!"No hazardous commands found ({files} file(s) scanned)".toList)
  else
    let count := findings.length
    Run.print (Output.line s!"\nFound {count} hazardous command(s) in {files} file(s):".toList)
    Run.print (← Run.ofExcept
      (Output.openTable ["Location", "Command", "Detail"] (findings.map findingRow)))

/-- Puts a report on the disk, and makes the directories above it. The disk is changed as far as
nothing goes wrong. -/
def putReport (disk : Disk) (output : String) (findings : List Finding) : Disk × Option Failure :=
  let path := Path.ofText output
  match disk.makeDirectories path.parent with
  | (made, some .inTheWay) =>
    (made, some ⟨.fileInTheWay, s!"File exists: {Text.quoted path.parent.text}"⟩)
  | (made, some (.lookup error)) => (made, some (error.failure path.parent.text))
  | (made, none) =>
    match made.write path (Output.report findings).toUTF8 with
    | .error error => (made, some (error.failure path.text))
    | .ok written => (written, none)

/-- Writes the report, if one is asked for, and says so. -/
def saveReport (output : Option String) (findings : List Finding) : Run Unit :=
  match output.filter (· ≠ "") with
  | none => return
  | some output => do
    let (disk, failure?) := putReport (← get).disk output findings
    Run.change fun session => { session with disk }
    if let some failure := failure? then throw (.failure failure)
    Run.print (← Run.ofExcept (Output.markupLine s!"Results saved to: {output}"))

/-- The exit code of a scan with its findings. -/
def exitCode (findings : List Finding) : ExitCode :=
  if findings.isEmpty then .success else .hazardsFound

/-! ## The command -/

/-- Scans the targets. -/
def scan (parser : Parser) (environment : Environment) (options : ScanOptions) : Run Unit := do
  let config ← loadConfig environment options.root
  let plan ← Run.ofExcept (Plan.make config options)
  let files ← plan.selectFiles options.targets
  if files.isEmpty then
    Run.printError "ERROR: No files matched the given targets\n"
    throw (.exit ExitCode.incomplete.toInt)
  let findings ← plan.scanPaths parser files
  Run.tell (findings.map .found)
  printFindings findings files.length
  saveReport options.output findings
  Run.finish (exitCode findings)

end Footgun.Cli
