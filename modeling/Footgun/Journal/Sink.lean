import Footgun.Disk.Write
import Footgun.Environment
import Footgun.Failure
import Footgun.Journal.Record

/-! # Where the journal goes

A `Setup` says from which level on records are shown, in which form, and whether they are also kept
in a file. The environment decides. -/

namespace Footgun.Journal

/-- Where the journal goes. -/
structure Setup where
  /-- The least serious level that is shown. -/
  threshold : Level
  /-- Whether records are shown as objects. -/
  machine : Bool
  /-- The file that records are kept in. -/
  file? : Option String
  deriving DecidableEq, Repr

namespace Setup

/-- The setup that an environment asks for. -/
def ofEnvironment (environment : Environment) : Except Failure Setup :=
  let name := (environment.lookup "HAZARDOUS_LOG_LEVEL").getD "INFO"
  match Level.ofName? name with
  | none => .error ⟨.badValue, s!"Level '{name}' does not exist"⟩
  | some threshold => .ok {
      threshold
      machine := environment.lookup "HAZARDOUS_LOG_JSON" = some "1"
      file? := (environment.lookup "HAZARDOUS_LOG_FILE").filter (· ≠ "") }

/-- The records that are at least as serious as a level. -/
def atLeast (level : Level) (records : List Record) : List Record :=
  records.filter fun record => level.severity ≤ record.level.severity

/-- What is shown of a list of records. -/
def shown (setup : Setup) (records : List Record) : String :=
  String.join ((atLeast setup.threshold records).map
    (if setup.machine then Record.machine else Record.human))

/-- What is kept of a list of records. Everything but the finest detail is kept. -/
def kept (records : List Record) : String :=
  String.join ((atLeast .debug records).map Record.machine)

/-- Adds what is kept to the end of the file, which is made only if there is something to keep. -/
def save (setup : Setup) (disk : Disk) (records : List Record) : Except LookupError Disk :=
  match setup.file? with
  | none => .ok disk
  | some file =>
    let path := Path.ofText file
    let text := kept records
    if text = "" then .ok disk
    else disk.write path ((disk.read path).toOption.getD .empty ++ text.toUTF8)

end Setup

end Footgun.Journal
