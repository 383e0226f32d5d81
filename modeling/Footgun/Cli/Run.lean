import Footgun.Cli.Rules
import Footgun.Cli.Scan

/-! # The command line

`Cli.run` does what a command line asks for. It is a function of the disk, the environment and the
arguments; what it gives is the disk afterwards, what is printed, what is told and the exit code. -/

namespace Footgun.Cli

open Journal (Event)
open Syntax (Parser)

/-- The version of this program. -/
def version : String := "0.3.0"

/-- The name of this program. -/
def program : String := "hazardous"

/-- How the program is used, in one line. -/
def usage : String :=
  s!"Usage: {program} scan [OPTIONS] TARGETS... | {program} rules [OPTIONS]\n"

/-- What a run leaves behind. -/
structure Result where
  /-- The exit code. -/
  exitCode : Int
  /-- The session at the end. -/
  session : Session

/-- Does what is asked for. -/
def perform (parser : Parser) (environment : Environment) : Request → Run Unit
  | .help => Run.print usage.toList
  | .version => Run.print (Output.line s!"{program}, version {version}".toList)
  | .scan options => Run.guarded "scan" (scan parser environment options)
  | .rules root => Run.guarded "rules" (rules environment root)

/-- A session with more printed about errors. -/
def Session.withErrors (session : Session) (text : String) : Session :=
  { session with errors := session.errors ++ text }

/-- A session with a line about an error. -/
def Session.withError (session : Session) (message : String) : Session :=
  session.withErrors s!"Error: {message}\n"

/-- The result of a command that ended in a session. -/
def Result.ofEnding : Except Stop Unit × Session → Result
  | (.ok (), session) => ⟨0, session⟩
  | (.error (.exit code), session) => ⟨code, session⟩
  | (.error (.refusal message), session) => ⟨1, session.withError message⟩
  | (.error (.failure failure), session) => ⟨1, session.withError failure.summary⟩

/-- Runs a command line. -/
def run (parser : Parser) (environment : Environment) (disk : Disk) (arguments : List String) :
    Result :=
  match readRequest disk arguments with
  | .error error => ⟨error.exitCode, (Session.start disk).withErrors error.report⟩
  | .ok request => Result.ofEnding ((perform parser environment request).run (Session.start disk))

end Footgun.Cli
