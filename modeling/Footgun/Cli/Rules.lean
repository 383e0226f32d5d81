import Footgun.Cli.Session
import Footgun.Cli.Scan
import Footgun.Rule.Definition

/-! # The rules command

Shows the command, the flags and the paths that a scan with the same configuration looks for. -/

namespace Footgun.Cli

/-- Shows the rules in force. -/
def rules (environment : Environment) (root : String) : Run Unit := do
  let config ← loadConfig environment root
  let definition ← Run.ofExcept (Definition.ofJson (config.groupJson "rules"))
  Run.print (Output.heading "Hazardous command")
  let flags ← Run.ofExcept (Definition.listing definition.flags)
  let name := definition.name.text?.getD ""
  let label := definition.label.text?.getD ""
  Run.print (← Run.ofExcept
    (Output.framedTable ["Command", "Label", "Flags"] [[name, label, flags]]))
  let paths ← Run.ofExcept (Definition.listing definition.unsafePaths)
  Run.print (← Run.ofExcept (Output.markupLine s!"Unsafe paths: {paths}"))

end Footgun.Cli
