import Footgun.Syntax.Source
import Footgun.Text.Quoted

/-! # Parsing

Trees come from a `Parser`, one for each `Language`. `Parser.parse` refuses a tree that is marked to
hold a syntax error, and says where the first one stands. -/

namespace Footgun.Syntax

/-- The languages whose trees can be read. -/
inductive Language where
  /-- Shell scripts. -/
  | bash
  /-- Go sources. -/
  | go
  deriving DecidableEq, Repr

/-- The language of a name. -/
def Language.ofName? (name : String) : Option Language :=
  if name = "bash" then some .bash else if name = "go" then some .go else none

/-- What is said of a name that no language has. -/
def unsupportedLanguage (name : String) : String :=
  s!"Unsupported language: {name}"

/-- Why a file has no usable syntax tree. -/
structure ParseFailure where
  /-- The file. -/
  path : String
  /-- What is wrong with it. -/
  problem : String
  /-- The line of the first syntax error, if it is known. -/
  line : Option Int
  /-- The column of the first syntax error, if it is known. -/
  column : Option Int
  deriving DecidableEq, Repr

/-- The text of a coordinate that may be unknown. -/
def coordinate : Option Int → String
  | some n => toString n
  | none => "None"

/-- A failure in one line: the place as far as it is known, then the problem. -/
def ParseFailure.text (failure : ParseFailure) : String :=
  match failure.line with
  | some line =>
    s!"{failure.path}:{line}:{coordinate failure.column}: {failure.problem}"
  | none => s!"{failure.path}: {failure.problem}"

/-- A syntax tree with the source that it is about. -/
structure Parsed where
  /-- The bytes of the file. -/
  source : Source
  /-- Their syntax tree. -/
  tree : Tree

/-- The failure of a tree that is marked to hold a syntax error. -/
def faultOf (path : String) (source : Source) (tree : Tree) : ParseFailure :=
  match Tree.firstFault [tree] with
  | some fault =>
    let position := source.position fault.label.start
    ⟨path, s!"syntax error near {Text.quoted fault.kind}", some position.line, some position.column⟩
  | none => ⟨path, "syntax error", none, none⟩

/-- The tree, unless it is marked to hold a syntax error. -/
def checkTree (path : String) (source : Source) (tree : Tree) : Except ParseFailure Parsed :=
  if tree.label.erroneous then .error (faultOf path source tree) else .ok ⟨source, tree⟩

/-- What builds the syntax tree of a text. -/
structure Parser where
  /-- The syntax tree of a text in a language. -/
  tree : Language → String → Tree

/-- The checked syntax tree of a text. -/
def Parser.parse (parser : Parser) (language : Language) (path content : String) :
    Except ParseFailure Parsed :=
  checkTree path (Source.ofText content) (parser.tree language content)

end Footgun.Syntax
