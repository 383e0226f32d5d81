import Footgun.Go.Assignment
import Footgun.Go.Call
import Footgun.Proofs.DocumentOrder
import Footgun.Shell.Script

/-! # Extraction follows the document order

What is taken out of a syntax tree is described node by node: the nodes are put in document order,
each node that counts gives one command, and the assigning nodes change the binding table one after
the other. Main definitions:

* `Shell.isNamedCommand` — whether a node of a shell tree gives a command;
* `Shell.readBinding` — the table of a shell tree after one node.

The main statement is `extraction_folds_document_order`. -/

namespace Footgun

open Syntax (Tree Source)

/-! ## Shell trees -/

namespace Shell

/-- Whether a node is a command whose name is written out. A name that cannot be decoded counts as
written out, so that reading the command fails. -/
def isNamedCommand (source : Source) (tree : Tree) : Bool :=
  tree.kind == "command" && commandName source tree != some ""

/-- The `table` after the node `tree`: assignments and declarations change it. -/
def readBinding (source : Source) (table : Bindings) (tree : Tree) : Option Bindings :=
  if tree.kind = "variable_assignment" then assign source table tree
  else if tree.kind = "declaration_command" then declareNames source table tree
  else some table

/-- A command whose name is `""` gives nothing. -/
theorem commandOf_of_unnamed {source : Source} {tree : Tree}
    (unnamed : commandName source tree = some "") : commandOf source tree = some none := by
  simp [commandOf, unnamed]

/-- A command with another name than `""` is read as one, unless reading it fails. -/
theorem map_some_join_commandOf {source : Source} {tree : Tree}
    (named : commandName source tree ≠ some "") :
    (commandOf source tree).join.map some = commandOf source tree := by
  rw [commandOf]
  cases name : commandName source tree with
  | none => rfl
  | some text =>
      have written : text ≠ "" := fun empty => named (by rw [name, empty])
      cases (argumentNodes tree).mapM (renderWord source) with
      | none => simp [written]
      | some words => simp [written]

/-- Reading a node adds its command if it `isNamedCommand`, `unwrap`ped, and changes the table by
`readBinding`. -/
theorem readNode_eq (source : Source) (script : Script) (tree : Tree) :
    readNode source script tree = (do
      let commands ← ([tree].filter (isNamedCommand source)).mapM fun node =>
        (commandOf source node).join.map unwrap
      let bindings ← readBinding source script.bindings tree
      return ⟨script.commands ++ commands, bindings⟩) := by
  rw [readNode, readBinding]
  by_cases command : tree.kind = "command"
  · rw [if_pos command]
    by_cases unnamed : commandName source tree = some ""
    · -- A command whose name is `""` counts for neither side.
      have skipped : isNamedCommand source tree = false := by simp [isNamedCommand, unnamed]
      simp [commandOf_of_unnamed unnamed, skipped, command]
    · have kept : isNamedCommand source tree = true := by simp [isNamedCommand, command, unnamed]
      rw [← map_some_join_commandOf unnamed]
      cases read : (commandOf source tree).join with
      | none => simp [kept, read]
      | some found => simp [kept, read, command]
  · have skipped : isNamedCommand source tree = false := by simp [isNamedCommand, command]
    rw [if_neg command, List.filter_cons_of_neg (by simp [skipped]), List.filter_nil]
    -- Any other node adds no command, and binds what it assigns or declares.
    by_cases assignment : tree.kind = "variable_assignment"
    · simp [assignment]
    · by_cases declaration : tree.kind = "declaration_command"
      · simp [declaration]
      · simp [assignment, declaration]

/-- Reading `nodes` one after the other adds the commands of those that are `isNamedCommand`, and
changes the table by `readBinding` of all of them. The induction is on `nodes`. -/
theorem foldlM_readNode (source : Source) (nodes : List Tree) (script : Script) :
    nodes.foldlM (readNode source) script = (do
      let commands ← (nodes.filter (isNamedCommand source)).mapM fun node =>
        (commandOf source node).join.map unwrap
      let bindings ← nodes.foldlM (readBinding source) script.bindings
      return ⟨script.commands ++ commands, bindings⟩) := by
  induction nodes generalizing script with
  | nil => simp
  | cons node rest ih =>
      rw [List.foldlM_cons, readNode_eq]
      cases table : readBinding source script.bindings node with
      | none => cases kept : isNamedCommand source node <;> simp [kept, table]
      | some bindings =>
          cases kept : isNamedCommand source node with
          | false => simp [kept, table, ih]
          | true =>
              cases read : (commandOf source node).join with
              | none => simp [kept, read]
              | some command => simp [kept, read, table, ih, Option.bind_assoc]

/-- A script is read off the `preorder` of its tree. -/
theorem readScript_eq (source : Source) (tree : Tree) :
    readScript source tree = (do
      let commands ← (tree.preorder.filter (isNamedCommand source)).mapM fun node =>
        (commandOf source node).join.map unwrap
      let bindings ← tree.preorder.foldlM (readBinding source) Bindings.empty
      return ⟨commands, bindings⟩) := by
  rw [readScript, Tree.visit_eq_foldlM, Tree.forestPreorder_cons, Tree.forestPreorder_nil,
    List.append_nil, foldlM_readNode]
  rfl

end Shell

/-! ## Go trees -/

namespace Go

/-- The commands of a Go tree are those of the nodes of kind `"call_expression"` in its
`preorder`. -/
theorem readCalls_eq (source : Source) (tree : Tree) :
    readCalls source tree =
      (tree.preorder.filter (·.kind == "call_expression")).filterMap (commandOf source) := by
  rw [readCalls, Tree.run_visit_eq_foldl]
  -- With the commands so far as a parameter, the loop can be read off node by node.
  have gather : ∀ (nodes : List Tree) (commands : List Command),
      nodes.foldl (readCall source) commands =
        commands ++ (nodes.filter (·.kind == "call_expression")).filterMap (commandOf source) := by
    intro nodes
    induction nodes with
    | nil => simp
    | cons node rest ih =>
        intro commands
        rw [List.foldl_cons, ih, readCall]
        by_cases call : node.kind = "call_expression"
        · cases found : commandOf source node <;> simp [call, found]
        · simp [call]
  rw [gather, List.nil_append]

/-- The table of a Go tree is what `bindTargets` leaves at the nodes of its `preorder` that
`assigns`. -/
theorem trackAssignments_eq (source : Source) (tree : Tree) :
    trackAssignments source tree =
      (tree.preorder.filter (assigns ·.kind)).foldl
        (fun table node => bindTargets source table (targets node) (values node))
        Bindings.empty := by
  rw [trackAssignments, Tree.run_visit_eq_foldl, List.foldl_filter]
  rfl

end Go

/-! ## Both -/

/-- The loops that take commands and bindings out of a tree.

(1) The `trace` of the loop meets every node exactly once, `InDocumentOrder`: it is the `preorder`.

(2) `Shell.readScript` gives the commands of the nodes that are `Shell.isNamedCommand`, peeled by
`Shell.unwrap`, and the table that `Shell.readBinding` leaves; it gives nothing only if one of these
steps does.

(3) `Go.readCalls` gives the commands of the calls.

(4) `Go.trackAssignments` gives the table that the nodes with `Go.assigns` leave. -/
theorem extraction_folds_document_order (source : Source) (tree : Tree) :
    (∃ addresses, tree.InDocumentOrder addresses ∧
      tree.trace.map some = addresses.map tree.subtree? ∧ tree.trace = tree.preorder) ∧
    Shell.readScript source tree = (do
      let commands ← (tree.preorder.filter (Shell.isNamedCommand source)).mapM fun node =>
        (Shell.commandOf source node).join.map Shell.unwrap
      let bindings ← tree.preorder.foldlM (Shell.readBinding source) Bindings.empty
      return ⟨commands, bindings⟩) ∧
    Go.readCalls source tree =
      (tree.preorder.filter (·.kind == "call_expression")).filterMap (Go.commandOf source) ∧
    Go.trackAssignments source tree =
      (tree.preorder.filter (Go.assigns ·.kind)).foldl
        (fun table node => Go.bindTargets source table (Go.targets node) (Go.values node))
        Bindings.empty := by
  refine ⟨⟨tree.addresses, tree.inDocumentOrder_addresses, ?_, tree.trace_eq_preorder⟩,
    Shell.readScript_eq source tree, Go.readCalls_eq source tree,
    Go.trackAssignments_eq source tree⟩
  rw [tree.trace_eq_preorder, tree.map_subtree?_addresses]

end Footgun
