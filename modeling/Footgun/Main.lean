import Footgun.Cli.Run
import Footgun.Journal.Sink
import Footgun.Json.Reader
import Footgun.Syntax.Stored
import Footgun.Text.Lines
import Std.Time.DateTime

/-! # The program

The outer layer: it takes a picture of the working directory, runs the command line on it, and then
prints what the run printed and writes what the run wrote. Syntax trees are read from the file that
the variable `HAZARDOUS_TREES` names. -/

namespace Footgun.Main

open Journal (Event Moment Record Setup)

/-! ## Reading -/

/-- The entries of a directory. A link is read as one to the place that it leads to, and as one to
itself if it leads nowhere. -/
partial def readEntries (directory : String) : IO (List (String × Entry)) := do
  let entries ← (← IO.FS.realPath directory).readDir
  entries.toList.mapM fun found => do
    let path := found.path.toString
    let kind := (← found.path.symlinkMetadata).type
    match kind with
    | .dir => return (found.fileName, .directory (← readEntries path))
    | .symlink =>
      let resolved ← try IO.FS.realPath path catch _ => pure found.path
      return (found.fileName, .link resolved.toString)
    | _ => return (found.fileName, .file (← IO.FS.readBinFile path))

/-- The working directory, with nothing else in the directories above it. -/
def readDisk : IO Disk := do
  let working := (← IO.FS.realPath ".").toString
  let home := (Path.ofText working).parts
  let here := Entry.directory (← readEntries working)
  return { root := home.foldr (fun name entry => .directory [(name, entry)]) here, home }

/-- The names of the environment variables that count. -/
def environmentNames : List String :=
  Key.all.map Key.environmentName ++
    ["HAZARDOUS_LOG_LEVEL", "HAZARDOUS_LOG_JSON", "HAZARDOUS_LOG_FILE", "HAZARDOUS_TREES"]

/-- The environment variables that are set. -/
def readEnvironment : IO Environment :=
  environmentNames.filterMapM fun name => do
    return (← IO.getEnv name).map fun value => (name, value)

/-- A stored tree with its language and text. -/
def storedTree? (value : Json) : Option Syntax.Stored := do
  let language ← (value.get? "language").bind Json.text? >>= Syntax.Language.ofName?
  let content ← (value.get? "source").bind Json.text?
  let tree ← (value.get? "nodes").bind Syntax.Tree.ofJson?
  return { language, content := String.ofList (Text.foldNewlines content.toList), tree }

/-- The stored trees of a document. -/
def storedTrees (document : String) : List Syntax.Stored :=
  match Json.read document with
  | .ok (.arr values) => values.filterMap storedTree?
  | _ => []

/-- The parser that looks up the stored trees. -/
def readParser (environment : Environment) : IO Syntax.Parser := do
  match environment.lookup "HAZARDOUS_TREES" with
  | none => return .ofStored []
  | some file => return .ofStored (storedTrees (← IO.FS.readFile file))

/-! ## Writing -/

/-- The present moment. -/
def readMoment : IO Moment := do
  let stamp ← Std.Time.Timestamp.now
  let now := Std.Time.PlainDateTime.ofWallTime (.ofDuration stamp.toDurationSinceUnixEpoch)
  return {
    year := now.date.year.toInt.toNat
    month := now.date.month.val.toNat
    day := now.date.day.val.toNat
    hour := now.time.hour.val.toNat
    minute := now.time.minute.val.toNat
    second := now.time.second.val.toNat
    micro := now.time.nanosecond.val.toNat / 1000 }

/-- The record of an event. -/
def recordOf (moment : Moment) (event : Event) : Record where
  level := event.level
  time := moment
  message := event.message
  module := Cli.program
  function := "run"
  line := 0
  process := 0
  extra := []
  mishap? := none

/-- Adds to the file of the journal. -/
def writeJournal (setup : Setup) (records : List Record) : IO Unit := do
  let text := Setup.kept records
  match setup.file? with
  | none => return
  | some file =>
    if text ≠ "" then
      let handle ← IO.FS.Handle.mk file .append
      handle.putStr text

/-- Writes the report that a command line asks for, if the run has put one on the disk. -/
def writeReport (before after : Disk) (arguments : List String) : IO Unit := do
  match Cli.readRequest before arguments with
  | .ok (.scan options) =>
    match options.output.filter (· ≠ "") with
    | none => return
    | some output =>
      let path := Path.ofText output
      match after.read path with
      | .error _ => return
      | .ok content =>
        IO.FS.createDirAll path.parent.text
        IO.FS.writeBinFile path.text content
  | _ => return

/-- Runs a command line in the working directory. -/
def runHere (arguments : List String) : IO UInt32 := do
  let environment ← readEnvironment
  match Setup.ofEnvironment environment with
  | .error failure =>
    IO.eprintln failure.summary
    return 1
  | .ok setup =>
    let disk ← readDisk
    let result := Cli.run (← readParser environment) environment disk arguments
    let records := result.session.events.map (recordOf (← readMoment))
    IO.eprint (setup.shown records)
    writeJournal setup records
    writeReport disk result.session.disk arguments
    IO.print result.session.output
    IO.eprint result.session.errors
    return result.exitCode.toNat.toUInt32

end Footgun.Main

/-- The entry point. -/
def main (arguments : List String) : IO UInt32 :=
  Footgun.Main.runHere arguments
