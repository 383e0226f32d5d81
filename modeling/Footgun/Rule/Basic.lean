import Footgun.Command.Basic

/-! # Rules

A rule says which command is hazardous: its name, the flag strings that make it so, and the label
under which it is reported. A rule set adds the paths that must not be a target. -/

namespace Footgun

/-- A hazardous command. -/
structure Rule where
  /-- The name of the program. -/
  name : String
  /-- The flags that make it hazardous, runs of long flags joined by blanks. -/
  flags : List String
  /-- What it is called in findings. -/
  label : String
  deriving DecidableEq, Repr

/-- Everything that a scan needs to know about hazards. -/
structure RuleSet where
  /-- The hazardous command. -/
  command : Rule
  /-- The paths that must not be its target. -/
  unsafePaths : List String
  deriving DecidableEq, Repr

/-- Forced recursive removal. -/
def Rule.standard : Rule :=
  ⟨"rm", ["-rf", "-fr", "--recursive --force"], "rm -rf"⟩

/-- The rule set that applies when nothing else is configured. -/
def RuleSet.standard : RuleSet :=
  ⟨Rule.standard, ["/", "/*"]⟩

/-- Whether a rule is about a program, given by its name or by a path to it. -/
def Rule.names (rule : Rule) (program : String) : Bool :=
  program ≠ "" && (program == rule.name || baseName program == rule.name)

end Footgun
