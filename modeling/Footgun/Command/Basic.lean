import Footgun.Syntax.Source

/-! # Commands

A command is an invocation of a program: its name, its argument words and the place where it stands.
The same type serves shell scripts and Go sources. -/

namespace Footgun

/-- Where the text of a word comes from. -/
inductive Origin where
  /-- The word is written out. -/
  | literal
  /-- The word holds the value of a variable. -/
  | variable
  /-- The word holds something whose value is not known. -/
  | unresolved
  deriving DecidableEq, Repr

/-- The origin of a word put together from two parts. -/
def Origin.merge : Origin → Origin → Origin
  | .unresolved, _ => .unresolved
  | _, .unresolved => .unresolved
  | .variable, _ => .variable
  | _, .variable => .variable
  | .literal, .literal => .literal

/-- A word without its quotes, variables written as `${NAME}`. -/
structure Word where
  /-- The text of the word. -/
  text : String
  /-- Where the text comes from. -/
  origin : Origin
  deriving DecidableEq, Repr

/-- Two words written without a gap. -/
def Word.append (first second : Word) : Word :=
  ⟨first.text ++ second.text, first.origin.merge second.origin⟩

/-- The word that holds the value of a variable. -/
def Word.ofVariable (name : String) : Word :=
  ⟨"$\x7b" ++ name ++ "\x7d", .variable⟩

/-- An invocation of a program. -/
structure Command where
  /-- The program. -/
  name : String
  /-- The words after the name. -/
  arguments : List Word
  /-- Where the invocation starts. -/
  position : Syntax.Position
  deriving DecidableEq, Repr

/-- The texts of the argument words. -/
def Command.texts (command : Command) : List String :=
  command.arguments.map (·.text)

/-- What follows the last slash of a name, and the name itself without one. -/
def baseName (name : String) : String :=
  String.ofList (name.toList.reverse.takeWhile (· ≠ '/')).reverse

end Footgun
