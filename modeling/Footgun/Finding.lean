import Footgun.Command.Basic

/-! # Findings

A finding is one hazardous command in a file. -/

namespace Footgun

/-- A hazardous command in a file. -/
structure Finding where
  /-- The file. -/
  path : String
  /-- Where the command stands. -/
  position : Syntax.Position
  /-- What the command is called. -/
  command : String
  /-- Why it is hazardous, or nothing if its flags alone are. -/
  message : String
  deriving DecidableEq, Repr

/-- A finding in one line. -/
def Finding.text (finding : Finding) : String :=
  s!"unsafe code found at position {finding.position.line},{finding.position.column} in {finding.path}"

/-- The finding at a command. -/
def Finding.at (path label message : String) (command : Command) : Finding :=
  ⟨path, command.position, label, message⟩

end Footgun
