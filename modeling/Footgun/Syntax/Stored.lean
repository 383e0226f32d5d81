import Footgun.Json.Basic
import Footgun.Syntax.Parse

/-! # Stored syntax trees

A tree is stored as the list of its nodes in document order, each with its depth. `Parser.ofStored`
looks trees up instead of building them. -/

namespace Footgun.Syntax

/-- A natural number, if a value is one. -/
def natural? : Json → Option Nat
  | .int value => if 0 ≤ value then some value.toNat else none
  | _ => none

/-- A stored node: depth, kind, span, marks as bits, and field name. -/
def Label.ofJson? : Json → Option (Nat × Label)
  | .arr [depth, .str kind, start, stop, marks, .str field] => do
    let bits ← natural? marks
    return (← natural? depth, {
      kind, field
      start := ← natural? start
      stop := ← natural? stop
      named := bits.testBit 0
      missing := bits.testBit 1
      erroneous := bits.testBit 2 })
  | _ => none

/-- A stored tree. -/
def Tree.ofJson? : Json → Option Tree
  | .arr nodes => do Tree.ofPreorder (← nodes.mapM Label.ofJson?)
  | _ => none

/-- The tree of a text that nothing is known about. It is marked to hold a syntax error, so that the
text never passes for one without commands. -/
def Tree.unknown : Tree :=
  .node ⟨"program", 0, 0, true, false, true, ""⟩ []

/-- A tree and what it is the tree of. -/
structure Stored where
  /-- The language. -/
  language : Language
  /-- The text. -/
  content : String
  /-- The tree of the text. -/
  tree : Tree

/-- Looks up trees. A text whose tree is not stored does not parse. -/
def Parser.ofStored (stored : List Stored) : Parser where
  tree language content :=
    match stored.find? fun entry => entry.language == language && entry.content == content with
    | some entry => entry.tree
    | none => Tree.unknown

end Footgun.Syntax
