/-! # Exit codes

How a run ends. -/

namespace Footgun

/-- How a run ends. -/
inductive ExitCode where
  /-- Nothing hazardous was found. -/
  | success
  /-- Something hazardous was found. -/
  | hazardsFound
  /-- There was nothing to scan. -/
  | incomplete
  deriving DecidableEq, Repr

/-- The number of an exit code. -/
def ExitCode.toInt : ExitCode → Int
  | success => 0
  | hazardsFound => 1
  | incomplete => 3

/-- What an exit code means. -/
def ExitCode.text : ExitCode → String
  | success => "Success - No hazardous commands found"
  | hazardsFound => "Hazardous command invocations detected"
  | incomplete => "Scan could not be completed (no scannable files)"

/-- What a number means as an exit code. -/
def describeExit (code : Int) : String :=
  match [ExitCode.success, .hazardsFound, .incomplete].find? (·.toInt == code) with
  | some known => known.text
  | none => s!"Unknown exit code: {code}"

end Footgun
