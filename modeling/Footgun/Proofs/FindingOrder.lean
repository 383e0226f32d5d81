import Footgun.Proofs.Extraction
import Footgun.Proofs.Failing
import Footgun.Proofs.Position
import Footgun.Proofs.Refinement
import Footgun.Proofs.Samples
import Mathlib.Data.List.Forall2

/-! # Where findings stand

Every finding of a scan goes back to one node of the syntax tree, and stands where that node starts,
also if wrappers were peeled off its command. Scans go through the nodes in document order, so
findings come in the order of their positions. Main definitions:

* `commandAt` — the command that a node of a tree gives;
* `Scan.ComesFrom` — a finding is that of a node and stands at its start;
* `Scan.InPlace` — findings come from nodes one by one, in document order and in the order of
  positions.

The main statement is `Scan.findings_follow_document_order`. -/

namespace Footgun

open Syntax (Tree Source Parser Language Position)

/-! ## Commands and their nodes -/

/-- The kind of the nodes that stand for commands. -/
def commandKind : Language → String
  | .bash => "command"
  | .go => "call_expression"

/-- The command that `node` gives, wrappers peeled off in shell scripts. -/
def commandAt (language : Language) (source : Source) (node : Tree) : Option Command :=
  if node.kind = commandKind language then
    match language with
    | .bash => (Shell.commandOf source node).join.map Shell.unwrap
    | .go => Go.commandOf source node
  else none

/-- Peeling a command by `unwrap` keeps its position. -/
theorem Shell.position_unwrap (command : Command) :
    (unwrap command).position = command.position := by
  fun_induction unwrap command with
  | case1 command _ word rest _ ih => exact ih
  | case2 => rfl
  | case3 => rfl

/-- The command that `Shell.commandOf` reads stands where its node starts. -/
theorem Shell.position_of_commandOf {source : Source} {node : Tree} {command : Command}
    (given : commandOf source node = some (some command)) :
    command.position = source.position node.label.start := by
  rw [commandOf] at given
  obtain ⟨name, _, given⟩ := Option.bind_eq_some_iff.mp given
  by_cases unnamed : name = ""
  · rw [if_pos unnamed] at given
    cases given
  · rw [if_neg unnamed] at given
    obtain ⟨arguments, _, given⟩ := Option.bind_eq_some_iff.mp given
    cases given
    rfl

/-- The command that `Go.commandOf` reads stands where its call starts. -/
theorem Go.position_of_commandOf {source : Source} {node : Tree} {command : Command}
    (given : commandOf source node = some command) :
    command.position = source.position node.label.start := by
  -- Each branch of `commandOf` that gives a command takes the position of the call.
  rw [commandOf] at given
  obtain ⟨function, _, given⟩ := Option.bind_eq_some_iff.mp given
  by_cases plain : function.kind = "identifier"
  · rw [if_pos plain] at given
    cases given
    rfl
  · rw [if_neg plain] at given
    by_cases selector : function.kind = "selector_expression"
    · rw [if_pos selector] at given
      obtain ⟨arguments, _, given⟩ := Option.bind_eq_some_iff.mp given
      split at given
      · cases given
      · split at given
        · cases given
          rfl
        · cases given
    · rw [if_neg selector] at given
      cases given

/-- A node with a command `commandAt` it is of `commandKind language`, and the command stands where
the node starts. -/
theorem kind_and_position_of_commandAt {language : Language} {source : Source} {node : Tree}
    {command : Command} (given : commandAt language source node = some command) :
    node.kind = commandKind language ∧ command.position = source.position node.label.start := by
  unfold commandAt at given
  by_cases kind : node.kind = commandKind language
  · rw [if_pos kind] at given
    refine ⟨kind, ?_⟩
    cases language with
    | bash =>
        obtain ⟨wrapped, read, rfl⟩ := Option.map_eq_some_iff.mp given
        rw [Shell.position_unwrap]
        exact Shell.position_of_commandOf (Option.join_eq_some_iff.mp read)
    | go => exact Go.position_of_commandOf given
  · rw [if_neg kind] at given
    cases given

/-- The commands of a shell script are `commandAt .bash` the nodes of the `preorder`. -/
theorem Shell.commands_of_readScript {source : Source} {tree : Tree} {script : Script}
    (read : readScript source tree = some script) :
    script.commands = tree.preorder.filterMap (commandAt .bash source) := by
  rw [readScript_eq] at read
  obtain ⟨commands, mapped, read⟩ := Option.bind_eq_some_iff.mp read
  obtain ⟨bindings, _, read⟩ := Option.bind_eq_some_iff.mp read
  cases read
  show commands = _
  rw [← filterMap_eq_of_mapM_eq_some mapped, List.filterMap_filter]
  congr 1
  funext node
  by_cases kind : node.kind = "command"
  · by_cases unnamed : commandName source node = some ""
    · simp [commandAt, isNamedCommand, unnamed, commandOf_of_unnamed unnamed]
    · simp [commandAt, commandKind, isNamedCommand, kind, unnamed]
  · simp [commandAt, commandKind, isNamedCommand, kind]

/-- The commands of a Go source are `commandAt .go` the nodes of the `preorder`. -/
theorem Go.readCalls_eq_filterMap (source : Source) (tree : Tree) :
    readCalls source tree = tree.preorder.filterMap (commandAt .go source) := by
  rw [readCalls_eq, List.filterMap_filter]
  congr 1
  funext node
  by_cases kind : node.kind = "call_expression" <;> simp [commandAt, commandKind, kind]

namespace Scan

/-! ## Findings and their nodes -/

/-- The members of `items.filterMap f` go back to a sublist of `items`, one by one and in order. -/
theorem exists_sublist_forall₂_filterMap {α β : Type} (f : α → Option β) (items : List α) :
    ∃ origins : List α, origins.Sublist items ∧
      List.Forall₂ (fun result origin => origin ∈ items ∧ f origin = some result)
        (items.filterMap f) origins := by
  induction items with
  | nil => exact ⟨[], .slnil, .nil⟩
  | cons item rest ih =>
      obtain ⟨origins, sublist, each⟩ := ih
      have later := each.imp fun result origin given =>
        And.imp_left (List.mem_cons_of_mem item) given
      cases given : f item with
      | none =>
          rw [List.filterMap_cons_none given]
          exact ⟨origins, sublist.cons item, later⟩
      | some result =>
          rw [List.filterMap_cons_some given]
          exact ⟨item :: origins, sublist.cons_cons item, .cons ⟨List.mem_cons_self, given⟩ later⟩

/-- The `finding` is that of `node`: the node gives a command with a hazardous flag, the finding is
about this command, and the only offset that its position `Denotes` is the one where the node
starts. -/
structure ComesFrom (rules : RuleSet) (path : String) (language : Language) (source : Source)
    (finding : Finding) (node : Tree) : Prop where
  /-- The node stands for a command. -/
  kind : node.kind = commandKind language
  /-- The finding is about the command of the node. -/
  command : ∃ command message, commandAt language source node = some command ∧
    (flagOf? rules.command command).isSome ∧
    finding = Finding.at path rules.command.label message command
  /-- The finding stands where the node starts. -/
  position : ∀ offset, source.Denotes finding.position offset ↔ offset = node.label.start

/-- The `findings` come from nodes of `tree` (`ComesFrom`), one by one and in document order, and in
the order of their positions. -/
structure InPlace (rules : RuleSet) (path : String) (language : Language) (source : Source)
    (tree : Tree) (findings : List Finding) : Prop where
  /-- The positions do not decrease. -/
  ordered : findings.Pairwise fun first second => first.position ≤ second.position
  /-- Each finding has a node of its own. -/
  origins : ∃ nodes : List Tree, nodes.Sublist tree.preorder ∧
    List.Forall₂ (ComesFrom rules path language source) findings nodes

/-- The `judge` reports only commands with a hazardous flag, and each as itself. -/
def Reports (rules : RuleSet) (path : String) (judge : Command → Option Finding) : Prop :=
  ∀ command finding, judge command = some finding →
    (flagOf? rules.command command).isSome ∧
      ∃ message, finding = Finding.at path rules.command.label message command

variable {rules : RuleSet} {path : String} {language : Language} {source : Source} {tree : Tree}

/-- A finding that a `judge` with `Reports` gives at a node inside the source has `ComesFrom` that
node, and the position where it starts. -/
theorem comesFrom_of_judge {judge : Command → Option Finding} (reports : Reports rules path judge)
    {node : Tree} (inside : node.label.start ≤ source.bytes.size) {finding : Finding}
    (given : (commandAt language source node).bind judge = some finding) :
    ComesFrom rules path language source finding node ∧
      finding.position = source.position node.label.start := by
  obtain ⟨command, read, judged⟩ := Option.bind_eq_some_iff.mp given
  obtain ⟨kind, start⟩ := kind_and_position_of_commandAt read
  obtain ⟨flagged, message, same⟩ := reports command finding judged
  have standing : finding.position = source.position node.label.start := by
    rw [same]
    exact start
  refine ⟨⟨kind, ⟨command, message, read, flagged, same⟩, ?_⟩, standing⟩
  rw [standing]
  exact Source.denotes_position_iff inside

/-- If the spans are `Nested` and inside the source, the findings of a `judge` with `Reports` over
the `preorder` are `InPlace`. -/
theorem inPlace_filterMap {judge : Command → Option Finding} (nested : tree.Nested)
    (inside : tree.label.stop ≤ source.bytes.size) (reports : Reports rules path judge) :
    InPlace rules path language source tree
      ((tree.preorder.filterMap (commandAt language source)).filterMap judge) := by
  rw [List.filterMap_filterMap]
  have startInside : ∀ node ∈ tree.preorder, node.label.start ≤ source.bytes.size := by
    intro node member
    have span := nested.inside member
    omega
  constructor
  · -- The findings are in order because the nodes start in order.
    rw [List.pairwise_filterMap]
    refine (Tree.pairwise_start_preorder nested).imp_of_mem ?_
    intro first second firstMember secondMember le finding given later givenLater
    have secondInside := startInside second secondMember
    rw [(comesFrom_of_judge reports (startInside first firstMember) given).2,
      (comesFrom_of_judge reports secondInside givenLater).2]
    exact Source.position_le_position le secondInside
  · -- Each finding goes back to a node of its own.
    obtain ⟨nodes, sublist, each⟩ :=
      exists_sublist_forall₂_filterMap (fun node => (commandAt language source node).bind judge)
        tree.preorder
    refine ⟨nodes, sublist, each.imp fun finding node origin => ?_⟩
    exact (comesFrom_of_judge reports (startInside node origin.1) origin.2).1

/-! ## Policies -/

/-- The findings of `flagPolicy` are those of `flagOf?`, command by command. -/
theorem flagPolicy_eq_filterMap (rules : RuleSet) (path : String) (commands : List Command) :
    flagPolicy rules path commands = commands.filterMap fun command =>
      (flagOf? rules.command command).map fun _ =>
        Finding.at path rules.command.label "" command := by
  induction commands with
  | nil => rfl
  | cons command rest ih =>
      rw [flagPolicy] at ih ⊢
      cases flag : flagOf? rules.command command with
      | none =>
          rw [List.filter_cons_of_neg (by simp [flag]), ih,
            List.filterMap_cons_none (by simp [flag])]
      | some found =>
          rw [List.filter_cons_of_pos (by simp [flag]), List.map_cons, ih,
            List.filterMap_cons_some (by rw [flag, Option.map_some])]

/-- The findings of `pathPolicy` are those of `hazardOf?`, command by command. -/
theorem pathPolicy_eq_filterMap (rules : RuleSet) (path : String) (script : Script) :
    (pathPolicy rules path script).1 = script.commands.filterMap fun command =>
      (hazardOf? rules script.bindings command).map fun hazard =>
        Finding.at path rules.command.label hazard.reason.text command := by
  rw [pathPolicy, hazards, List.map_filterMap]
  simp only [Option.map_map, Function.comp_def]

/-- The judgement of `flagPolicy` has `Reports`. -/
theorem reports_flagPolicy (rules : RuleSet) (path : String) :
    Reports rules path fun command =>
      (flagOf? rules.command command).map fun _ =>
        Finding.at path rules.command.label "" command := by
  intro command finding judged
  obtain ⟨found, flag, rfl⟩ := Option.map_eq_some_iff.mp judged
  exact ⟨by rw [flag, Option.isSome_some], "", rfl⟩

/-- The judgement of `pathPolicy` has `Reports`. -/
theorem reports_pathPolicy (rules : RuleSet) (path : String) (table : Bindings) :
    Reports rules path fun command =>
      (hazardOf? rules table command).map fun hazard =>
        Finding.at path rules.command.label hazard.reason.text command := by
  intro command finding judged
  obtain ⟨hazard, found, rfl⟩ := Option.map_eq_some_iff.mp judged
  have hazardous : (hazardOf? rules table command).isSome := by rw [found, Option.isSome_some]
  exact ⟨isSome_flagOf?_of_hazardOf? hazardous, hazard.reason.text, rfl⟩

/-! ## Makefiles -/

/-- A finding of `scanLines` from line `number` on stands on this line or behind it. -/
theorem le_line_of_mem_scanLines {rule : Rule} {path : String} {number : Nat}
    {lines : List (List Char)} {finding : Finding}
    (member : finding ∈ scanLines rule path number lines) :
    (number : Int) ≤ finding.position.line := by
  induction lines generalizing number with
  | nil => cases member
  | cons line rest ih =>
      rw [scanLines, List.mem_append, List.mem_map] at member
      rcases member with ⟨hit, _, rfl⟩ | later
      · exact Int.le_refl _
      · have := ih later
        omega

/-- The findings of `scanLines` stand on strictly increasing lines. -/
theorem pairwise_line_scanLines (rule : Rule) (path : String) (number : Nat)
    (lines : List (List Char)) :
    (scanLines rule path number lines).Pairwise fun first second =>
      first.position.line < second.position.line := by
  induction lines generalizing number with
  | nil => exact .nil
  | cons line rest ih =>
      rw [scanLines, List.pairwise_append]
      refine ⟨?_, ih (number + 1), ?_⟩
      · -- A line has at most one finding.
        cases Makefile.hazardIn rule line with
        | none => exact .nil
        | some hit => exact List.pairwise_singleton _ _
      · intro finding here later there
        obtain ⟨hit, _, rfl⟩ := List.mem_map.mp here
        have bound := le_line_of_mem_scanLines there
        show (number : Int) < _
        omega

/-! ## Scans -/

/-- The spans of `tree` are `Nested` and lie inside `content`. -/
structure NestedIn (content : String) (tree : Tree) : Prop where
  /-- The spans are nested. -/
  nested : tree.Nested
  /-- The root lies inside the text. -/
  inside : tree.label.stop ≤ content.utf8ByteSize

instance (content : String) : DecidablePred (NestedIn content) := fun tree =>
  decidable_of_iff (tree.Nested ∧ tree.label.stop ≤ content.utf8ByteSize)
    ⟨fun ⟨nested, inside⟩ => ⟨nested, inside⟩, fun ⟨nested, inside⟩ => ⟨nested, inside⟩⟩

/-- If `result` gives findings, they are `InPlace`. -/
def GivesInPlace (parser : Parser) (rules : RuleSet) (path content : String) (language : Language)
    (result : Except ScanError Findings) : Prop :=
  ∀ findings events, result = .ok (findings, events) →
    InPlace rules path language (Source.ofText content) (parser.tree language content) findings

/-- The commands of a script that `readShell` gives are `commandAt .bash` the nodes of its tree. -/
theorem commands_of_readShell {parser : Parser} {path content : String} {script : Script}
    (read : readShell parser path content = .ok script) :
    script.commands = (parser.tree .bash content).preorder.filterMap
      (commandAt .bash (Source.ofText content)) := by
  rw [readShell, Parser.parse, Syntax.checkTree] at read
  by_cases erroneous : (parser.tree .bash content).label.erroneous
  · simp [erroneous] at read
  · rw [if_neg erroneous] at read
    dsimp only at read
    split at read
    · cases read
    · rename_i found
      cases read
      exact Shell.commands_of_readScript found

/-- The commands of a source that `readGo` gives are `commandAt .go` the nodes of its tree. -/
theorem commands_of_readGo {parser : Parser} {path content : String} {script : Script}
    (read : readGo parser path content = .ok script) :
    script.commands = (parser.tree .go content).preorder.filterMap
      (commandAt .go (Source.ofText content)) := by
  rw [readGo, Parser.parse, Syntax.checkTree] at read
  by_cases erroneous : (parser.tree .go content).label.erroneous
  · simp [erroneous] at read
  · rw [if_neg erroneous] at read
    cases read
    exact Go.readCalls_eq_filterMap _ _

/-! ## A script and a Go source -/

/-- A script with a character of two bytes and two hazardous commands, the second of them
wrapped. -/
def removalsText : String :=
  "echo é; rm -rf /\nsudo rm -rf /*\n"

/-- The tree of `removalsText`. -/
def removalsTree : Tree :=
  branch "program" 0 33 "" [
    branch "command" 0 7 "" [
      branch "command_name" 0 4 "name" [branch "word" 0 4 "" []],
      branch "word" 5 7 "argument" []],
    branch "command" 9 17 "" [
      branch "command_name" 9 11 "name" [branch "word" 9 11 "" []],
      branch "word" 12 15 "argument" [], branch "word" 16 17 "argument" []],
    branch "command" 18 32 "" [
      branch "command_name" 18 22 "name" [branch "word" 18 22 "" []],
      branch "word" 23 25 "argument" [], branch "word" 26 29 "argument" [],
      branch "word" 30 32 "argument" []]]

/-- Two calls that remove what is in the root directory, on one line. -/
def callsText : String :=
  "rm(\"-rf\", \"/\"); rm(\"-rf\", \"/*\")"

/-- The tree of `callsText`. -/
def callsTree : Tree :=
  branch "source_file" 0 31 "" [
    branch "call_expression" 0 14 "" [
      branch "identifier" 0 2 "function" [],
      branch "argument_list" 2 14 "arguments" [
        branch "interpreted_string_literal" 3 8 "" [],
        branch "interpreted_string_literal" 10 13 "" []]],
    branch "call_expression" 16 31 "" [
      branch "identifier" 16 18 "function" [],
      branch "argument_list" 18 31 "arguments" [
        branch "interpreted_string_literal" 19 24 "" [],
        branch "interpreted_string_literal" 26 30 "" []]]]

/-! ## Findings of a scan -/

/-- Findings follow the document.

(1) If the spans of the tree are `NestedIn content`, `scanShellFlags` and `scanShellPaths` have
`GivesInPlace`: the findings come in the order of their positions, and each of them stands at the
one offset where the node of its command starts.

(2) The same holds of `scanGo`.

(3) The findings of `scanMakefile` stand on strictly increasing lines. -/
theorem findings_follow_document_order (parser : Parser) (rules : RuleSet) (path content : String) :
    (NestedIn content (parser.tree .bash content) →
      GivesInPlace parser rules path content .bash (scanShellFlags parser rules path content) ∧
      GivesInPlace parser rules path content .bash (scanShellPaths parser rules path content)) ∧
    (NestedIn content (parser.tree .go content) →
      GivesInPlace parser rules path content .go (scanGo parser rules path content)) ∧
    (scanMakefile rules path content).Pairwise fun first second =>
      first.position.line < second.position.line := by
  -- All three scans judge the commands of a tree one by one; only the judgement differs.
  refine ⟨fun fits => ⟨?_, ?_⟩, fun fits => ?_, pairwise_line_scanLines _ _ _ _⟩
  · intro findings events scanned
    obtain ⟨script, read, same⟩ := exists_of_map_eq_ok scanned
    cases same
    rw [flagPolicy_eq_filterMap, commands_of_readShell read]
    exact inPlace_filterMap fits.nested fits.inside (reports_flagPolicy rules path)
  · intro findings events scanned
    obtain ⟨script, read, same⟩ := exists_of_map_eq_ok scanned
    rw [show findings = (pathPolicy rules path script).1 by rw [same], pathPolicy_eq_filterMap,
      commands_of_readShell read]
    exact inPlace_filterMap fits.nested fits.inside (reports_pathPolicy rules path script.bindings)
  · intro findings events scanned
    obtain ⟨script, read, same⟩ := exists_of_map_eq_ok scanned
    rw [show findings = (pathPolicy rules path script).1 by rw [same], pathPolicy_eq_filterMap,
      commands_of_readGo read]
    exact inPlace_filterMap fits.nested fits.inside (reports_pathPolicy rules path script.bindings)

/-- The two commands of `removalsText` and the two calls of `callsText` are found in order, where
their nodes start. -/
theorem findings_follow_document_order_removals :
    (NestedIn removalsText removalsTree ∧ ∃ findings events,
      scanShellPaths ⟨fun _ _ => removalsTree⟩ .standard "a.sh" removalsText =
        .ok (findings, events) ∧
      findings.map (·.position) = [⟨1, 10⟩, ⟨2, 1⟩] ∧
      InPlace .standard "a.sh" .bash (Source.ofText removalsText) removalsTree findings) ∧
    NestedIn callsText callsTree ∧ ∃ findings events,
      scanGo ⟨fun _ _ => callsTree⟩ .standard "a.go" callsText = .ok (findings, events) ∧
      findings.map (·.position) = [⟨1, 1⟩, ⟨1, 17⟩] ∧
      InPlace .standard "a.go" .go (Source.ofText callsText) callsTree findings := by
  have nested : NestedIn removalsText removalsTree := by decide
  have nestedCalls : NestedIn callsText callsTree := by decide
  have scanned : scanShellPaths ⟨fun _ _ => removalsTree⟩ .standard "a.sh" removalsText =
      .ok ([⟨"a.sh", ⟨1, 10⟩, "rm -rf", HazardReason.unsafePath.text⟩,
          ⟨"a.sh", ⟨2, 1⟩, "rm -rf", HazardReason.unsafePath.text⟩],
        [.hazard "a.sh" ⟨.unsafePath, "/", none⟩, .hazard "a.sh" ⟨.unsafePath, "/*", none⟩]) :=
    eq_ok_of_toOption_eq_some (by decide +kernel)
  have scannedCalls : scanGo ⟨fun _ _ => callsTree⟩ .standard "a.go" callsText =
      .ok ([⟨"a.go", ⟨1, 1⟩, "rm -rf", HazardReason.unsafePath.text⟩,
          ⟨"a.go", ⟨1, 17⟩, "rm -rf", HazardReason.unsafePath.text⟩],
        [.hazard "a.go" ⟨.unsafePath, "/", none⟩, .hazard "a.go" ⟨.unsafePath, "/*", none⟩]) :=
    eq_ok_of_toOption_eq_some (by decide +kernel)
  have shell :=
    findings_follow_document_order ⟨fun _ _ => removalsTree⟩ .standard "a.sh" removalsText
  have calls := findings_follow_document_order ⟨fun _ _ => callsTree⟩ .standard "a.go" callsText
  exact ⟨⟨nested, _, _, scanned, rfl, (shell.1 nested).2 _ _ scanned⟩,
    nestedCalls, _, _, scannedCalls, rfl, calls.2.1 nestedCalls _ _ scannedCalls⟩

end Scan

end Footgun
