import Footgun.ExitCode
import Footgun.Failure
import Footgun.FileKind
import Footgun.Finding
import Footgun.Journal.Level
import Footgun.Limit
import Footgun.Rule.Paths
import Footgun.Selection.Statistics
import Footgun.Syntax.Parse

/-! # Events

What a run has to tell about itself. Each event has a level and a message; the message of an event
with a cause ends with it. -/

namespace Footgun.Journal

/-- Something that a run has to tell. -/
inductive Event where
  /-- A file is about to be scanned. -/
  | handling (kind : FileKind) (path : String)
  /-- A file is too large. -/
  | skipped (path : String) (limit : Limit)
  /-- A file cannot be read. -/
  | unreadable (path cause : String)
  /-- A file has no usable syntax tree. -/
  | unparsable (path : String) (failure : Syntax.ParseFailure)
  /-- A command names an unsafe path. -/
  | hazard (path : String) (danger : PathHazard)
  /-- A variable of a file with findings has no value. -/
  | unassigned (name path : String)
  /-- A target does not exist. -/
  | targetMissing (target : String)
  /-- An entry of a configuration file is not used. -/
  | keyIgnored (group key path : String)
  /-- A configuration file cannot be used. -/
  | configUnusable (path cause : String)
  /-- The run goes on without a configuration file. -/
  | configDefaulted
  /-- An environment variable is not used. -/
  | variableInvalid (name : String) (kept : Int)
  /-- A hazardous command is reported. -/
  | found (finding : Finding)
  /-- The files to scan are known. -/
  | selected (count : Nat) (statistics : Statistics)
  /-- The run ends. -/
  | ended (code : ExitCode)
  /-- A command failed. -/
  | commandFailed (command : String) (failure : Failure)
  deriving DecidableEq, Repr

namespace Event

/-- How serious an event is. -/
def level : Event → Level
  | handling .. | hazard .. | selected .. | ended .. => .debug
  | skipped .. | configDefaulted => .info
  | unassigned .. | keyIgnored .. | configUnusable .. | variableInvalid .. | found .. => .warning
  | unreadable .. | unparsable .. | targetMissing .. | commandFailed .. => .error

/-- The message of an event without its cause. -/
def headline : Event → String
  | handling kind path => s!"handling {kind.name} file: {path}"
  | skipped path limit => s!"Skipping {path}: larger than {limit.text} bytes"
  | unreadable path _ => s!"Error reading file {path}"
  | unparsable path failure => s!"Error parsing file {path}: {failure.text}"
  | hazard path danger => s!"{path}: {danger.reason.text} ({danger.path})"
  | unassigned name path => s!"un-assigned variable '{name}' found in {path}"
  | targetMissing target => s!"Target not found: {target}"
  | keyIgnored group key path => s!"Ignoring config key {group}.{key} in {path}"
  | configUnusable path _ => s!"Could not load config file from {path}"
  | configDefaulted => "Continuing with default configuration"
  | variableInvalid name kept => s!"Invalid value for {name}, keeping {kept}"
  | found finding => finding.text
  | selected count statistics => s!"Selected {count} files: {statistics.text}"
  | ended code => code.text
  | commandFailed command _ => s!"Command '{command}' failed"

/-- What caused an event, if it is said. -/
def cause? : Event → Option String
  | unreadable _ cause => some cause
  | configUnusable _ cause => some cause
  | commandFailed _ failure => some failure.text
  | _ => none

/-- The message of an event. -/
def message (event : Event) : String :=
  match event.cause? with
  | some cause => s!"{event.headline}: {cause}"
  | none => event.headline

end Event

end Footgun.Journal
