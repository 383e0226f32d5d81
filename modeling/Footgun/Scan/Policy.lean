import Footgun.Journal.Event
import Footgun.Rule.Flags
import Footgun.Shell.Script

/-! # Policies

A policy decides which commands of a file are findings. The *flag policy* asks for a hazardous flag.
The *path policy* also asks for an unsafe path among the words after the flag. -/

namespace Footgun.Scan

open Journal (Event)

/-- The hazardous flag of a command that a rule is about. -/
def flagOf? (rule : Rule) (command : Command) : Option FlagMatch :=
  if rule.names command.name then matchFlags command.texts rule.flags else none

/-- The unsafe path of a command with a hazardous flag. -/
def hazardOf? (rules : RuleSet) (table : Bindings) (command : Command) : Option PathHazard := do
  let found ← flagOf? rules.command command
  classifyPaths table rules.unsafePaths (command.texts.drop (found.index + 1))

/-- The findings of the flag policy. -/
def flagPolicy (rules : RuleSet) (path : String) (commands : List Command) : List Finding :=
  (commands.filter fun command => (flagOf? rules.command command).isSome).map
    (Finding.at path rules.command.label "")

/-- The commands that the path policy reports, with their hazards. -/
def hazards (rules : RuleSet) (script : Script) : List (Command × PathHazard) :=
  script.commands.filterMap fun command =>
    (hazardOf? rules script.bindings command).map fun hazard => (command, hazard)

/-- The findings of the path policy, and what they give to tell. If there are any, the variables of
the file without a value are pointed out. -/
def pathPolicy (rules : RuleSet) (path : String) (script : Script) : List Finding × List Event :=
  let reported := hazards rules script
  let findings := reported.map fun entry =>
    Finding.at path rules.command.label entry.2.reason.text entry.1
  let details := reported.map fun entry => Event.hazard path entry.2
  let warnings :=
    if findings.isEmpty then []
    else script.bindings.unassigned.map fun name => Event.unassigned name path
  (findings, details ++ warnings)

end Footgun.Scan
