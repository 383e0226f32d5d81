import Footgun.Disk.Basic
import Footgun.ExitCode
import Footgun.Journal.Event

/-! # Sessions

A command works on a `Session`: the disk, what it has printed and what it has told. A `Run` is a
step of a command. It gives a value or stops the command, and keeps what was done before. `guarded`
turns what went wrong in a command into a refusal and tells about it. -/

namespace Footgun.Cli

open Journal (Event)

/-- The state of a command. -/
structure Session where
  /-- The disk. -/
  disk : Disk
  /-- What has been printed. -/
  output : String
  /-- What has been printed about errors. -/
  errors : String
  /-- What has been told, in order. -/
  events : List Event

/-- The session before anything has happened. -/
def Session.start (disk : Disk) : Session :=
  ⟨disk, "", "", []⟩

/-- Why a command stops before its end. -/
inductive Stop where
  /-- It ends with an exit code. -/
  | exit (code : Int)
  /-- It refuses to go on. -/
  | refusal (message : String)
  /-- Something went wrong. -/
  | failure (failure : Failure)
  deriving DecidableEq, Repr

/-- A step of a command. -/
abbrev Run :=
  ExceptT Stop (StateM Session)

namespace Run

/-- Changes the session. -/
def change (f : Session → Session) : Run Unit :=
  modify f

/-- Prints a text. -/
def print (text : List Char) : Run Unit :=
  change fun session => { session with output := session.output ++ String.ofList text }

/-- Prints a text about an error. -/
def printError (text : String) : Run Unit :=
  change fun session => { session with errors := session.errors ++ text }

/-- Tells about events. -/
def tell (events : List Event) : Run Unit :=
  change fun session => { session with events := session.events ++ events }

/-- Ends with an exit code, and tells what it means. -/
def finish (code : ExitCode) : Run Unit := do
  tell [.ended code]
  throw (.exit code.toInt)

/-- Goes on with a value, or stops with a failure. -/
def ofExcept {α : Type} : Except Failure α → Run α
  | .ok value => pure value
  | .error failure => throw (.failure failure)

/-- What a stop becomes at the border of a command, and what is told about it. -/
def atBorder (command : String) : Stop → Stop × List Event
  | .failure failure => (.refusal failure.summary, [.commandFailed command failure])
  | stop => (stop, [])

/-- A command whose failures are told about and become refusals. -/
def guarded {α : Type} (command : String) (body : Run α) : Run α :=
  tryCatch body fun stop => do
    let (outer, events) := atBorder command stop
    tell events
    throw outer

end Run

end Footgun.Cli
