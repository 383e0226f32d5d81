import Footgun.Proofs.BindingEvents
import Footgun.Proofs.Extraction
import Footgun.Proofs.Samples

/-! # Variables of a Go source

An assigning node gives its targets their values by position. What a variable is given last in
document order is what it has in the end, also where a function inside an assignment assigns to the
same variable again. Main definitions:

* `TargetAt` — a variable is the target of a node at a position;
* `Gives` — what a node gives to its target at a position;
* `WritesLast` — a position of a node is the last one in document order where a variable is a
  target.

The main statement is `trackAssignments_binds_last_target`. -/

namespace Footgun

/-! ## Last members -/

/-- The last member that `keeps` stands at an index behind which no member `keeps`. -/
theorem getLast?_filter_eq_some_iff {α : Type} {keeps : α → Bool} {list : List α} {a : α} :
    (list.filter keeps).getLast? = some a ↔
      ∃ index : Nat, list[index]? = some a ∧ keeps a ∧
        ∀ (later : Nat) (b : α), index < later → list[later]? = some b → keeps b = false := by
  rw [List.getLast?_filter, List.find?_eq_some_iff_append]
  constructor
  · rintro ⟨kept, behind, before, split, none⟩
    -- From the end, the last member that is kept is the first one.
    have whole : list = before.reverse ++ a :: behind.reverse := by
      simpa using congrArg List.reverse split
    subst whole
    refine ⟨before.reverse.length, by simp, kept, ?_⟩
    intro later b further found
    have member : b ∈ behind := by
      obtain ⟨offset, rfl⟩ := Nat.exists_eq_add_of_lt further
      rw [Nat.add_assoc, List.getElem?_append_right (Nat.le_add_right _ _), Nat.add_sub_cancel_left,
        List.getElem?_cons_succ] at found
      exact List.mem_reverse.mp (List.mem_of_getElem? found)
    simpa using none b member
  · rintro ⟨index, found, kept, none⟩
    -- The list is split at the index; behind it nothing is kept.
    obtain ⟨inside, rfl⟩ := List.getElem?_eq_some_iff.mp found
    refine ⟨kept, (list.drop (index + 1)).reverse, (list.take index).reverse, ?_, ?_⟩
    · simp
    · intro b member
      obtain ⟨offset, further⟩ := List.mem_iff_getElem?.mp (List.mem_reverse.mp member)
      rw [List.getElem?_drop] at further
      have dropped := none _ b (by omega) further
      simp [dropped]

/-- In a list in the strict order `r`, the last member of `list.flatMap f` comes from a member
behind which all others give `[]`. -/
theorem getLast?_flatMap_eq_some_iff {α β : Type} {r : α → α → Prop} [Std.Asymm r] {list : List α}
    (sorted : list.Pairwise r) {f : α → List β} {b : β} :
    (list.flatMap f).getLast? = some b ↔
      ∃ a ∈ list, (f a).getLast? = some b ∧ ∀ later ∈ list, r a later → f later = [] := by
  rw [List.getLast?_flatMap, List.findSome?_eq_some_iff]
  constructor
  · rintro ⟨behind, a, before, split, last, none⟩
    have whole : list = before.reverse ++ a :: behind.reverse := by
      simpa using congrArg List.reverse split
    subst whole
    obtain ⟨_, _, across⟩ := List.pairwise_append.mp sorted
    refine ⟨a, by simp, last, ?_⟩
    intro later member further
    -- What is further on than the member does not stand in front of it, and is not the member
    -- itself.
    rcases List.mem_append.mp member with isBefore | member
    · exact absurd further (Std.Asymm.asymm _ _ (across later isBefore a List.mem_cons_self))
    rcases List.mem_cons.mp member with rfl | isBehind
    · exact absurd further (Std.Asymm.asymm _ _ further)
    · exact List.getLast?_eq_none_iff.mp (none later (List.mem_reverse.mp isBehind))
  · rintro ⟨a, member, last, none⟩
    obtain ⟨before, behind, rfl⟩ := List.append_of_mem member
    obtain ⟨_, here, _⟩ := List.pairwise_append.mp sorted
    refine ⟨behind.reverse, a, before.reverse, by simp, last, ?_⟩
    intro later isLater
    have isBehind : later ∈ behind := List.mem_reverse.mp isLater
    have further : r a later := List.rel_of_pairwise_cons here isBehind
    rw [none later (by simp [isBehind]) further]
    rfl

namespace Go

open Syntax (Tree Source)
open Bindings (Event record)
open Scan (branch)

/-! ## Targets and what they are given -/

/-- The variable `name` is the target of `node` at `index`. -/
def TargetAt (source : Source) (node : Tree) (index : Nat) (name : String) : Prop :=
  ∃ target, (targets node)[index]? = some target ∧ target.kind = "identifier" ∧
    source.textLossy target = name

/-- What `node` gives to its target at `index`. -/
inductive Gives (source : Source) (node : Tree) (index : Nat) : String → Prop where
  /-- With as many values as targets, the target is given the value at the same position. -/
  | paired {value : Tree} (same : (targets node).length = (values node).length)
      (isValue : (values node)[index]? = some value) :
      Gives source node index (renderValue source value)
  /-- Otherwise no target is given a value. -/
  | unpaired (different : (targets node).length ≠ (values node).length) : Gives source node index ""

/-- The targets of `node` with the texts that they are given. -/
def assignments (source : Source) (node : Tree) : List (Tree × String) :=
  if (targets node).length = (values node).length then
    (targets node).zip ((values node).map (renderValue source))
  else (targets node).map fun target => (target, "")

variable {source : Source} {tree node target : Tree} {index : Nat} {name value : String}

/-- Every target of a node is given something: its value, or the empty text. -/
theorem exists_gives (isTarget : (targets node)[index]? = some target) :
    ∃ value, Gives source node index value := by
  by_cases same : (targets node).length = (values node).length
  · have inside : index < (values node).length := by
      rw [← same]
      exact (List.getElem?_eq_some_iff.mp isTarget).1
    exact ⟨_, .paired same (List.getElem?_eq_getElem inside)⟩
  · exact ⟨"", .unpaired same⟩

/-- A target stands in `assignments` together with what the node `Gives` it. -/
theorem getElem?_assignments :
    (assignments source node)[index]? = some (target, value) ↔
      (targets node)[index]? = some target ∧ Gives source node index value := by
  rw [assignments]
  by_cases same : (targets node).length = (values node).length
  · -- As many values as targets: they are paired.
    rw [if_pos same, List.getElem?_zip_eq_some]
    refine and_congr_right fun _ => ?_
    rw [List.getElem?_map, Option.map_eq_some_iff]
    constructor
    · rintro ⟨item, isItem, rfl⟩
      exact .paired same isItem
    · rintro (⟨_, isItem⟩ | ⟨different⟩)
      · exact ⟨_, isItem, rfl⟩
      · exact absurd same different
  · -- Otherwise every target is given the empty text.
    rw [if_neg same, List.getElem?_map, Option.map_eq_some_iff]
    constructor
    · rintro ⟨other, isTarget, pair⟩
      cases pair
      exact ⟨isTarget, .unpaired same⟩
    · rintro ⟨isTarget, ⟨paired, _⟩ | ⟨_⟩⟩
      · exact absurd paired same
      · exact ⟨target, isTarget, rfl⟩

/-! ## Nodes -/

/-- Whether a target is a variable that is followed. -/
def isFollowed (source : Source) (target : Tree) : Bool :=
  target.kind = "identifier" && source.textLossy target ≠ "_"

/-- The events of `node`: each variable among its targets is given a text. -/
def eventsAt (source : Source) (node : Tree) : List Event :=
  ((assignments source node).filter fun pair => isFollowed source pair.1).map fun pair =>
    ⟨source.textLossy pair.1, some pair.2⟩

/-- Binding the targets of a node is recording its `eventsAt` it. -/
theorem bindTargets_eq (table : Bindings) :
    bindTargets source table (targets node) (values node) =
      (eventsAt source node).foldl record table := by
  have each : bindTargets source table (targets node) (values node) =
      (assignments source node).foldl (fun table pair => bindTarget source table pair.1 pair.2)
        table := by
    rw [bindTargets, assignments]
    split
    · rw [List.zip_map_right, List.foldl_map]
      rfl
    · rw [List.foldl_map]
  rw [each, eventsAt, List.foldl_map, List.foldl_filter]
  rfl

/-- The table `trackAssignments` is what the `eventsAt` the nodes with `assigns` leave of the empty
one. -/
theorem trackAssignments_eq_foldl (source : Source) (tree : Tree) :
    trackAssignments source tree =
      ((tree.preorder.filter (assigns ·.kind)).flatMap (eventsAt source)).foldl record
        Bindings.empty := by
  rw [trackAssignments_eq, List.foldl_flatMap]
  congr 1
  funext table node
  exact bindTargets_eq table

/-! ## One variable -/

/-- The targets of `node` that are the variable `name`, with what they are given. -/
def writesTo (source : Source) (name : String) (node : Tree) : List (Tree × String) :=
  (assignments source node).filter fun pair =>
    pair.1.kind == "identifier" && source.textLossy pair.1 == name

/-- The targets that are the variable `name` (`writesTo`) in the node at `address`, if that is a
node that `assigns`. -/
def writesAt (source : Source) (tree : Tree) (name : String) (address : List Nat) :
    List (Tree × String) :=
  ((tree.subtree? address).toList.filter (assigns ·.kind)).flatMap (writesTo source name)

/-- The last of `writesTo source name node` stands at the last index that has `TargetAt` for
`name`. -/
theorem getLast?_writesTo :
    (writesTo source name node).getLast? = some (target, value) ↔
      ∃ index, (targets node)[index]? = some target ∧ target.kind = "identifier" ∧
        source.textLossy target = name ∧ Gives source node index value ∧
        ∀ later, index < later → ¬ TargetAt source node later name := by
  rw [writesTo, getLast?_filter_eq_some_iff]
  refine exists_congr fun index => ?_
  rw [getElem?_assignments, Bool.and_eq_true, beq_iff_eq, beq_iff_eq]
  constructor
  · rintro ⟨⟨isTarget, gives⟩, ⟨isName, named⟩, none⟩
    refine ⟨isTarget, isName, named, gives, ?_⟩
    rintro later further ⟨other, isOther, otherName, otherNamed⟩
    -- A later target would have a pair of its own, which the filter keeps.
    obtain ⟨text, givesOther⟩ := exists_gives isOther
    have skipped :=
      none later (other, text) further (getElem?_assignments.mpr ⟨isOther, givesOther⟩)
    simp [otherName, otherNamed] at skipped
  · rintro ⟨isTarget, isName, named, gives, none⟩
    refine ⟨⟨isTarget, gives⟩, ⟨isName, named⟩, ?_⟩
    rintro later ⟨other, text⟩ further found
    rw [Bool.and_eq_false_iff, beq_eq_false_iff_ne, beq_eq_false_iff_ne, ← not_and_or]
    rintro ⟨otherName, otherNamed⟩
    exact none later further ⟨other, (getElem?_assignments.mp found).1, otherName, otherNamed⟩

/-- Nothing `writesTo` a name in a node exactly if no index has `TargetAt` for it. -/
theorem writesTo_eq_nil_iff :
    writesTo source name node = [] ↔ ∀ index, ¬ TargetAt source node index name := by
  rw [writesTo, List.filter_eq_nil_iff]
  constructor
  · rintro none index ⟨target, isTarget, isName, named⟩
    obtain ⟨text, gives⟩ := exists_gives isTarget
    have member := List.mem_of_getElem? (getElem?_assignments.mpr ⟨isTarget, gives⟩)
    exact none _ member (by simp [isName, named])
  · rintro none ⟨target, text⟩ member isWrite
    obtain ⟨index, found⟩ := List.mem_iff_getElem?.mp member
    rw [Bool.and_eq_true, beq_iff_eq, beq_iff_eq] at isWrite
    exact none index ⟨target, (getElem?_assignments.mp found).1, isWrite⟩

/-- An address of a subtree is one of the tree's `addresses`. -/
theorem mem_addresses_of_subtree? {address : List Nat}
    (located : tree.subtree? address = some node) : address ∈ tree.addresses := by
  rw [Tree.mem_addresses_iff, located]
  rfl

/-- The last of `writesAt` an address is the last of `writesTo` at the node there. -/
theorem getLast?_writesAt {address : List Nat} {pair : Tree × String} :
    (writesAt source tree name address).getLast? = some pair ↔
      ∃ node, tree.subtree? address = some node ∧ assigns node.kind ∧
        (writesTo source name node).getLast? = some pair := by
  rw [writesAt]
  cases tree.subtree? address with
  | none => simp
  | some node => by_cases isAssigning : assigns node.kind <;> simp [isAssigning]

/-- Nothing `writesAt` an address exactly if no index of an assigning node there has `TargetAt`. -/
theorem writesAt_eq_nil_iff {address : List Nat} :
    writesAt source tree name address = [] ↔
      ∀ node, tree.subtree? address = some node → assigns node.kind →
        ∀ index, ¬ TargetAt source node index name := by
  simp only [← writesTo_eq_nil_iff]
  rw [writesAt]
  cases tree.subtree? address with
  | none => simp
  | some node => by_cases isAssigning : assigns node.kind <;> simp [isAssigning]

/-- The nodes with `assigns` in the `preorder` are those at the `addresses` of the tree, in
order. -/
theorem flatMap_writesTo_preorder (source : Source) (tree : Tree) (name : String) :
    (tree.preorder.filter (assigns ·.kind)).flatMap (writesTo source name) =
      tree.addresses.flatMap (writesAt source tree name) := by
  have read : ∀ nodes : List Tree, (nodes.filter (assigns ·.kind)).flatMap (writesTo source name) =
      (nodes.map some).flatMap fun node? =>
        (node?.toList.filter (assigns ·.kind)).flatMap (writesTo source name) := by
    intro nodes
    induction nodes with
    | nil => rfl
    | cons node rest ih =>
        rw [List.map_cons, List.flatMap_cons, ← ih, ← List.flatMap_append, ← List.filter_append]
        rfl
  rw [read, ← tree.map_subtree?_addresses, List.flatMap_map]
  rfl

/-- For a name other than `"_"`, the table holds the last of what `writesAt` the `addresses` of the
tree. -/
theorem get?_trackAssignments (followed : name ≠ "_") :
    (trackAssignments source tree).get? name =
      (tree.addresses.flatMap (writesAt source tree name)).getLast?.map (·.2) := by
  -- The events on a variable are what is written to it, address by address.
  have onName : Bindings.eventsOn name
      ((tree.preorder.filter (assigns ·.kind)).flatMap (eventsAt source)) =
        (tree.addresses.flatMap (writesAt source tree name)).map fun pair =>
          ⟨source.textLossy pair.1, some pair.2⟩ := by
    rw [← flatMap_writesTo_preorder, Bindings.eventsOn, List.filter_flatMap, List.map_flatMap]
    congr 1
    funext node
    rw [eventsAt, writesTo, List.filter_map, List.filter_filter]
    congr 1
    refine List.filter_congr fun pair _ => ?_
    by_cases isName : pair.1.kind = "identifier"
    · by_cases named : source.textLossy pair.1 = name <;> simp [isFollowed, isName, named, followed]
    · simp [isFollowed, isName]
  rw [trackAssignments_eq_foldl, Bindings.get?_foldl_record, Bindings.valueAfter, onName]
  rcases List.eq_nil_or_concat (tree.addresses.flatMap (writesAt source tree name)) with
    empty | ⟨_, _, split⟩
  · simp [empty]
  · simp [split]

/-! ## The table -/

/-- The target of `node` at `index` is the last one in document order that is the variable `name`:
the variable is no target (`TargetAt`) at a later index of the node, or of a node further on in the
document. -/
structure WritesLast (source : Source) (tree : Tree) (name : String) (address : List Nat)
    (node : Tree) (index : Nat) : Prop where
  /-- The node stands at the address. -/
  located : tree.subtree? address = some node
  /-- It assigns values. -/
  assigning : assigns node.kind
  /-- The variable is its target. -/
  target : TargetAt source node index name
  /-- There is no later position in the node. -/
  lastPosition : ∀ later, index < later → ¬ TargetAt source node later name
  /-- There is no later node. -/
  lastNode :
    ∀ later other, address < later → tree.subtree? later = some other → assigns other.kind →
      ∀ position, ¬ TargetAt source other position name

/-- For a name other than `"_"`, the table holds what the node that `WritesLast` `Gives`. -/
theorem get?_trackAssignments_eq_some_iff (followed : name ≠ "_") :
    (trackAssignments source tree).get? name = some value ↔
      ∃ address node index, WritesLast source tree name address node index ∧
        Gives source node index value := by
  rw [get?_trackAssignments followed, Option.map_eq_some_iff]
  simp only [getLast?_flatMap_eq_some_iff tree.pairwise_addresses]
  constructor
  · rintro ⟨⟨target, _⟩, ⟨address, _, last, none⟩, rfl⟩
    -- The last pair is the last one of its node, and no later node writes to the name.
    obtain ⟨node, located, assigning, last⟩ := getLast?_writesAt.mp last
    obtain ⟨index, isTarget, isName, named, gives, lastPosition⟩ := getLast?_writesTo.mp last
    refine ⟨address, node, index,
      ⟨located, assigning, ⟨target, isTarget, isName, named⟩, lastPosition, ?_⟩, gives⟩
    intro later other further isOther
    exact writesAt_eq_nil_iff.mp (none later (mem_addresses_of_subtree? isOther) further)
      other isOther
  · rintro ⟨address, node, index, last, gives⟩
    obtain ⟨target, isTarget, isName, named⟩ := last.target
    have inside := mem_addresses_of_subtree? last.located
    refine ⟨(target, value),
      ⟨address, inside, getLast?_writesAt.mpr ⟨node, last.located, last.assigning, ?_⟩, ?_⟩,
      rfl⟩
    · exact getLast?_writesTo.mpr ⟨index, isTarget, isName, named, gives, last.lastPosition⟩
    · intro later _ further
      exact writesAt_eq_nil_iff.mpr fun other => last.lastNode later other further

/-- A name other than `"_"` is in the table exactly if it is a target somewhere. -/
theorem contains_trackAssignments_iff (followed : name ≠ "_") :
    (trackAssignments source tree).contains name ↔
      ∃ address node index, tree.subtree? address = some node ∧ assigns node.kind ∧
        TargetAt source node index name := by
  have missing : (trackAssignments source tree).get? name = none ↔
      ∀ address ∈ tree.addresses, writesAt source tree name address = [] := by
    rw [get?_trackAssignments followed, Option.map_eq_none_iff, List.getLast?_eq_none_iff,
      List.flatMap_eq_nil_iff]
  rw [Bindings.contains_iff, ← not_iff_not, ← Bindings.get?_eq_none_iff, missing]
  constructor
  · rintro none ⟨address, node, index, located, assigning, isTarget⟩
    have inside := mem_addresses_of_subtree? located
    exact writesAt_eq_nil_iff.mp (none address inside) node located assigning index isTarget
  · intro none address _
    rw [writesAt_eq_nil_iff]
    intro node located assigning index isTarget
    exact none ⟨address, node, index, located, assigning, isTarget⟩

/-- The blank identifier `"_"` is not in the table. -/
theorem not_contains_blank (source : Source) (tree : Tree) :
    ¬ (trackAssignments source tree).contains "_" := by
  rw [trackAssignments_eq_foldl, (Bindings.reflects_foldl_record _).contains]
  rintro ⟨event, member, named⟩
  obtain ⟨node, _, isEvent⟩ := List.mem_flatMap.mp member
  obtain ⟨pair, isPair, rfl⟩ := List.mem_map.mp isEvent
  have followed : isFollowed source pair.1 := (List.mem_filter.mp isPair).2
  have blank : source.textLossy pair.1 = "_" := named
  simp [isFollowed, blank] at followed

/-- A source with a function that assigns to a target of the assignment around it. -/
def closureText : String :=
  "x, _ := 1, func() \x7b x = 2 \x7d"

/-- The tree of `closureText`. -/
def closureTree : Tree :=
  branch "short_var_declaration" 0 27 "" [
    branch "expression_list" 0 4 "left" [branch "identifier" 0 1 "" [],
      branch "identifier" 3 4 "" []],
    branch "expression_list" 8 27 "right" [
      branch "int_literal" 8 9 "" [],
      branch "func_literal" 11 27 "" [
        branch "block" 18 27 "body" [
          branch "assignment_statement" 20 25 "" [
            branch "expression_list" 20 21 "left" [branch "identifier" 20 21 "" []],
            branch "expression_list" 24 25 "right" [branch "int_literal" 24 25 "" []]]]]]]

end Go

end Footgun
