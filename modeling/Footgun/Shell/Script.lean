import Footgun.Command.Bindings
import Footgun.Shell.Word
import Footgun.Shell.Wrapper

/-! # Shell scripts

`readScript` takes the commands and the variable bindings out of a shell tree in document order. -/

namespace Footgun

/-- What a file runs, and the values that its variables get. -/
structure Script where
  /-- The commands in document order. -/
  commands : List Command
  /-- The variables of the file. -/
  bindings : Bindings

/-- A file without commands and variables. -/
def Script.empty : Script :=
  ⟨[], Bindings.empty⟩

namespace Shell

open Syntax (Tree Source)

/-! ## Commands -/

/-- The kinds of nodes that are arguments of a command. -/
def argumentKinds : List String := [
  "word", "string", "raw_string", "ansi_c_string", "expansion", "simple_expansion", "concatenation",
  "number", "command_substitution", "process_substitution", "arithmetic_expansion"]

/-- The name that the first part of a command's name gives: its text as far as it is written out,
and nothing if it depends on a variable. A string in double quotes counts up to its first
interpolation. -/
def nameOfPart (source : Source) (part : Tree) : Option String :=
  if part.kind = "word" then source.text? part
  else if part.kind = "raw_string" then (source.text? part).map (unquote 1)
  else if part.kind = "string" then
    match part.namedChildren with
    | [] => (source.text? part).map (unquote 1)
    | first :: _ => if first.kind = "string_content" then source.text? first else some ""
  else if part.kind = "concatenation" then
    (renderWord source part).map fun word => if word.origin = .literal then word.text else ""
  else some ""

/-- The name of a command, or nothing if it is not written out. -/
def commandName (source : Source) (tree : Tree) : Option String :=
  match tree.child? "name" with
  | none => some ""
  | some name =>
    match name.namedChildren with
    | [] => source.text? name
    | part :: _ => nameOfPart source part

/-- The nodes that are arguments of a command: those of an argument kind after its name. -/
def argumentNodes (tree : Tree) : List Tree :=
  (tree.children.dropWhile (·.kind ≠ "command_name")).filter (argumentKinds.contains ·.kind)

/-- The command of a node, if its name is written out. -/
def commandOf (source : Source) (tree : Tree) : Option (Option Command) := do
  let name ← commandName source tree
  if name = "" then return none
  let arguments ← (argumentNodes tree).mapM (renderWord source)
  return some ⟨name, arguments, source.position tree.label.start⟩

/-! ## Variables -/

/-- The declarations that take away a variable's value. -/
def resettingKeywords : List String :=
  ["local", "declare", "typeset"]

/-- The table after an assignment. Elements of arrays are not followed, and a whole array counts as
no value. -/
def assign (source : Source) (table : Bindings) (tree : Tree) : Option Bindings :=
  match tree.child? "name" with
  | none => some table
  | some name =>
    if name.kind ≠ "variable_name" then some table
    else do
      let value ← match tree.child? "value" with
        | none => some ""
        | some value =>
          if value.kind = "array" then some "" else (renderWord source value).map (·.text)
      return table.bind (← source.text? name) value

/-- The table after a declaration of one name. -/
def declareName (keyword : String) (table : Bindings) (name : String) : Bindings :=
  if resettingKeywords.contains keyword then table.bind name "" else table.declare name

/-- The table after a declaration of names without values. -/
def declareNames (source : Source) (table : Bindings) (tree : Tree) : Option Bindings := do
  let keyword := (tree.children.head?.map (·.kind)).getD ""
  let names ← (tree.children.filter (·.kind == "variable_name")).mapM source.text?
  return names.foldl (declareName keyword) table

/-! ## The whole script -/

/-- What one node adds to a script. -/
def readNode (source : Source) (script : Script) (tree : Tree) : Option Script :=
  if tree.kind = "command" then do
    match ← commandOf source tree with
    | some command => return { script with commands := script.commands ++ [unwrap command] }
    | none => return script
  else if tree.kind = "variable_assignment" then do
    return { script with bindings := ← assign source script.bindings tree }
  else if tree.kind = "declaration_command" then do
    return { script with bindings := ← declareNames source script.bindings tree }
  else some script

/-- The commands and the bindings of a shell tree. -/
def readScript (source : Source) (tree : Tree) : Option Script :=
  Tree.visit (readNode source) [tree] Script.empty

end Shell

end Footgun
