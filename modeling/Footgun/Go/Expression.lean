import Footgun.Syntax.Source

/-! # Go expressions

Readings of expression nodes in a Go tree. `renderValue` gives the text that stands for a right-hand
side: the value of a literal, the name of an identifier, a call of a named function, and nothing for
any other expression. -/

namespace Footgun.Go

open Syntax (Tree Source)

/-- Whether nodes of a kind are strings. -/
def isStringLiteral (kind : String) : Bool :=
  kind == "interpreted_string_literal" || kind == "raw_string_literal"

/-- Whether nodes of a kind are literals of a basic type. -/
def isBasicLiteral (kind : String) : Bool :=
  isStringLiteral kind ||
    ["int_literal", "float_literal", "imaginary_literal", "rune_literal"].contains kind

/-- Whether nodes of a kind are identifiers, predeclared ones included. -/
def isIdentifier (kind : String) : Bool :=
  ["identifier", "true", "false", "nil", "iota"].contains kind

/-- The named nodes below a tree, comments left out. -/
def operands (tree : Tree) : List Tree :=
  tree.namedChildren.filter (·.kind ≠ "comment")

/-- The expressions of a list of expressions; a single expression is a list of one. -/
def items : Option Tree → List Tree
  | none => []
  | some tree => if tree.kind = "expression_list" then operands tree else [tree]

/-- The argument expressions of a call. -/
def callArguments (call : Tree) : List Tree :=
  match call.child? "arguments" with
  | none => []
  | some list => operands list

/-- The value of a literal, without the quotes of a string. -/
def renderLiteral (source : Source) (tree : Tree) : String :=
  let text := source.textLossy tree
  if isStringLiteral tree.kind then String.ofList (text.toList.drop 1).dropLast else text

/-- An argument of a call as it is written; an expression of several parts becomes `_`. -/
def renderArgument (source : Source) (tree : Tree) : String :=
  if isBasicLiteral tree.kind || isIdentifier tree.kind then source.textLossy tree else "_"

/-- The text that stands for a right-hand side. -/
def renderValue (source : Source) (tree : Tree) : String :=
  if isBasicLiteral tree.kind then renderLiteral source tree
  else if isIdentifier tree.kind then source.textLossy tree
  else if tree.kind = "call_expression" then
    match tree.child? "function" with
    | none => ""
    | some function =>
      if function.kind ≠ "identifier" then ""
      else
        let arguments := ", ".intercalate ((callArguments tree).map (renderArgument source))
        source.textLossy function ++ "(" ++ arguments ++ ")"
  else ""

end Footgun.Go
