import Footgun.Command.Basic
import Footgun.Go.Expression

/-! # Go calls

A call stands for a command in two shapes: a call of a plain function is a command of that name, and
`exec.Command` and `exec.CommandContext` run the program that a string names among their
arguments. -/

namespace Footgun.Go

open Syntax (Tree Source)

/-- The word of an argument expression. -/
def renderWord (source : Source) (tree : Tree) : Word :=
  if isStringLiteral tree.kind then ⟨renderLiteral source tree, .literal⟩
  else if tree.kind = "identifier" then Word.ofVariable (source.textLossy tree)
  else ⟨source.textLossy tree, .unresolved⟩

/-- How many arguments of an `exec` function come before the program. -/
def argumentsBefore? (function : String) : Option Nat :=
  if function = "Command" then some 0 else if function = "CommandContext" then some 1 else none

/-- The arguments from the program on, if a selector is one of the `exec` functions. -/
def programArguments? (source : Source) (selector : Tree) (arguments : List Tree) :
    Option (List Tree) := do
  let operand ← selector.child? "operand"
  let field ← selector.child? "field"
  if source.textLossy operand ≠ "exec" then none
  let count ← argumentsBefore? (source.textLossy field)
  return arguments.drop count

/-- The command that a call stands for. -/
def commandOf (source : Source) (call : Tree) : Option Command := do
  let function ← call.child? "function"
  let position := source.position call.label.start
  let arguments := callArguments call
  if function.kind = "identifier" then
    return ⟨source.textLossy function, arguments.map (renderWord source), position⟩
  else if function.kind = "selector_expression" then
    match ← programArguments? source function arguments with
    | [] => none
    | program :: rest =>
      if isStringLiteral program.kind then
        return ⟨renderLiteral source program, rest.map (renderWord source), position⟩
      else none
  else none

/-- The commands after a node. -/
def readCall (source : Source) (commands : List Command) (tree : Tree) : List Command :=
  if tree.kind = "call_expression" then commands ++ (commandOf source tree).toList else commands

/-- The commands of a Go tree in document order. -/
def readCalls (source : Source) (tree : Tree) : List Command :=
  Id.run (Tree.visit (fun commands node => pure (readCall source commands node)) [tree] [])

end Footgun.Go
