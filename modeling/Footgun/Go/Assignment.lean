import Footgun.Command.Bindings
import Footgun.Go.Expression

/-! # Go assignments

`trackAssignments` gives each identifier of a Go tree the text of the right-hand side that it was
assigned last. Targets and values belong together by position; if their numbers differ, no target
has a value. -/

namespace Footgun.Go

open Syntax (Tree Source)

/-- The table after an assignment to one target. Only identifiers other than `_` are followed. -/
def bindTarget (source : Source) (table : Bindings) (target : Tree) (value : String) : Bindings :=
  if target.kind = "identifier" && source.textLossy target ≠ "_" then
    table.bind (source.textLossy target) value
  else table

/-- The table after an assignment of values to targets. -/
def bindTargets (source : Source) (table : Bindings) (targets values : List Tree) : Bindings :=
  if targets.length = values.length then
    (targets.zip values).foldl
      (fun table pair => bindTarget source table pair.1 (renderValue source pair.2)) table
  else targets.foldl (fun table target => bindTarget source table target "") table

/-- The left-hand side of an assignment: the field, or else the first child. -/
def leftSide (tree : Tree) : Option Tree :=
  (tree.child? "left").or tree.children[0]?

/-- The right-hand side of an assignment: the field, or else the third child. -/
def rightSide (tree : Tree) : Option Tree :=
  (tree.child? "right").or tree.children[2]?

/-- The targets of an assignment or a specification. -/
def targets (tree : Tree) : List Tree :=
  if tree.kind = "var_spec" || tree.kind = "const_spec" then
    tree.namedChildren.filter (·.kind == "identifier")
  else items (leftSide tree)

/-- The values of an assignment or a specification. -/
def values (tree : Tree) : List Tree :=
  if tree.kind = "var_spec" || tree.kind = "const_spec" then items (tree.child? "value")
  else items (rightSide tree)

/-- Whether nodes of a kind assign values. -/
def assigns (kind : String) : Bool :=
  ["short_var_declaration", "assignment_statement", "var_spec", "const_spec"].contains kind

/-- The table after a node. -/
def trackNode (source : Source) (table : Bindings) (tree : Tree) : Bindings :=
  if assigns tree.kind then bindTargets source table (targets tree) (values tree) else table

/-- The values of the identifiers of a Go tree. -/
def trackAssignments (source : Source) (tree : Tree) : Bindings :=
  Id.run (Tree.visit (fun table node => pure (trackNode source table node)) [tree] Bindings.empty)

end Footgun.Go
