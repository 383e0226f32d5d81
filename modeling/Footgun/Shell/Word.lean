import Footgun.Command.Basic

/-! # Shell words

`renderWord` gives the text of a word in a shell tree: quotes are taken off, an expansion of a
variable becomes `${NAME}`, and everything whose value only a run can tell stays as it is written.
Rendering fails only if a span cuts a character in two. -/

namespace Footgun.Shell

open Syntax (Tree Source cut)

/-- Whether nodes of a kind expand a variable. -/
def isExpansion (kind : String) : Bool :=
  kind == "simple_expansion" || kind == "expansion"

/-- Whether nodes of a kind stand for the outcome of a computation. -/
def isSubstitution (kind : String) : Bool :=
  kind == "command_substitution" || kind == "process_substitution" || kind == "arithmetic_expansion"

/-- Whether nodes of a kind are replaced by another text when the script runs. -/
def isInterpolation (kind : String) : Bool :=
  isExpansion kind || isSubstitution kind

/-- The node that names the variable of an expansion. -/
def variableOf? (tree : Tree) : Option Tree :=
  tree.children.find? fun child =>
    child.kind == "variable_name" || child.kind == "special_variable_name"

/-- The word of an expansion or a substitution. An expansion without a plain variable is
unresolved. -/
def renderInterpolation (source : Source) (tree : Tree) : Option Word :=
  match if isExpansion tree.kind then variableOf? tree else none with
  | some name => (source.text? name).map Word.ofVariable
  | none => (source.text? tree).map fun text => ⟨text, .unresolved⟩

/-! ## Double quotes -/

/-- The text between two offsets of a span that starts at `base`. -/
def between? (body : ByteArray) (base start stop : Int) : Option String :=
  Text.decode? (cut body (start - base) (stop - base))

/-- Puts the rendered interpolations in place of their spans, from a place on up to `stop`. -/
def splice (source : Source) (body : ByteArray) (base stop : Int) : List Tree → Int → Option Word
  | [], place =>
    if place < stop then (between? body base place stop).map fun text => ⟨text, .literal⟩
    else some ⟨"", .literal⟩
  | child :: rest, place => do
    let before ← between? body base place child.label.start
    let word ← renderInterpolation source child
    let after ← splice source body base stop rest child.label.stop
    return Word.append ⟨before, .literal⟩ (word.append after)

/-- The word of a string in double quotes: what stands between the quotes, with its interpolations
rendered. -/
def renderQuoted (source : Source) (tree : Tree) : Option Word :=
  splice source (source.span tree) tree.label.start (tree.label.stop - 1)
    (tree.namedChildren.filter (isInterpolation ·.kind)) (tree.label.start + 1)

/-! ## Words -/

/-- A text without its first characters and its last one. -/
def unquote (leading : Nat) (text : String) : String :=
  String.ofList (text.toList.drop leading).dropLast

mutual

/-- The text of a word and where it comes from. -/
def renderWord (source : Source) : Tree → Option Word
  | .node label children =>
    let text? := source.text? (.node label children)
    if label.kind = "raw_string" then text?.map fun text => ⟨unquote 1 text, .literal⟩
    else if label.kind = "ansi_c_string" then text?.map fun text => ⟨unquote 2 text, .literal⟩
    else if label.kind = "string" then renderQuoted source (.node label children)
    else if isInterpolation label.kind then renderInterpolation source (.node label children)
    else if label.kind = "concatenation" then renderParts source children
    else text?.map fun text => ⟨text, .literal⟩

/-- The parts of a word, written without gaps. -/
def renderParts (source : Source) : List Tree → Option Word
  | [] => some ⟨"", .literal⟩
  | part :: rest => do
    let first ← renderWord source part
    let others ← renderParts source rest
    return first.append others

end

end Footgun.Shell
