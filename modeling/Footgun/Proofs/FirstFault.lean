import Footgun.Proofs.Position
import Footgun.Syntax.Parse

/-! # The first syntax error

A parser marks the nodes that hold a syntax error, and the search for the first error goes down only
where it finds such a mark. Main definitions:

* `Tree.Coherent` — a node is marked exactly if it is an error itself or has a marked child;
* `Tree.FirstFaultAt` — the first error of a tree in document order, and its address.

The main statement is `parse_locates_first_fault`: a text is refused exactly if the root of its tree
is marked, and with coherent marks the failure points at the first error of the whole tree. -/

namespace Footgun.Syntax

namespace Tree

/-! ## Coherent marks -/

/-- A node is marked `erroneous` exactly if it is a syntax error itself (`isFault`) or one of its
children is marked. -/
def CoherentAt (tree : Tree) : Prop :=
  tree.label.erroneous ↔ tree.isFault ∨ ∃ child ∈ tree.children, child.label.erroneous

/-- All nodes of `tree` are `CoherentAt`. -/
def Coherent (tree : Tree) : Prop :=
  ∀ node ∈ tree.preorder, node.CoherentAt

instance : DecidablePred CoherentAt := fun tree =>
  inferInstanceAs (Decidable
    (tree.label.erroneous ↔ tree.isFault ∨ ∃ child ∈ tree.children, child.label.erroneous))

instance : DecidablePred Coherent := fun tree =>
  inferInstanceAs (Decidable (∀ node ∈ tree.preorder, node.CoherentAt))

variable {tree : Tree}

/-- The root of a tree with `Coherent` marks is `CoherentAt`. -/
theorem Coherent.root (coherent : tree.Coherent) : tree.CoherentAt :=
  coherent tree tree.mem_preorder_self

/-- The `children` of a tree with `Coherent` marks have them, too. -/
theorem Coherent.below (coherent : tree.Coherent) {child : Tree} (below : child ∈ tree.children) :
    child.Coherent :=
  fun node member => coherent node (mem_preorder_of_mem_children below member)

/-- With `Coherent` marks, a tree is `erroneous` exactly if a node of its `preorder` has
`isFault`. -/
theorem Coherent.erroneous_iff (coherent : tree.Coherent) :
    tree.label.erroneous ↔ ∃ node ∈ tree.preorder, node.isFault := by
  induction tree using induction_on_children with
  | step label trees ih =>
      -- The children are coherent too, so the marked ones are those with an error in them.
      have inChildren : (∃ child ∈ trees, child.label.erroneous) ↔
          ∃ node ∈ forestPreorder trees, node.isFault := by
        constructor
        · rintro ⟨child, below, marked⟩
          obtain ⟨node, member, fault⟩ := (ih child below (coherent.below below)).mp marked
          exact ⟨node, mem_forestPreorder.mpr ⟨child, below, member⟩, fault⟩
        · rintro ⟨node, member, fault⟩
          obtain ⟨child, below, inside⟩ := mem_forestPreorder.mp member
          exact ⟨child, below, (ih child below (coherent.below below)).mpr ⟨node, inside, fault⟩⟩
      calc (node label trees).label.erroneous
          ↔ (node label trees).isFault ∨ ∃ child ∈ trees, child.label.erroneous := coherent.root
        _ ↔ (node label trees).isFault ∨ ∃ node ∈ forestPreorder trees, node.isFault := by
            rw [inChildren]
        _ ↔ ∃ found ∈ (node label trees).preorder, found.isFault := by
            rw [preorder_eq, children]
            simp

/-! ## The search along the marks -/

/-- In a tree with `Coherent` marks that is not `erroneous`, no node has `isFault`. -/
theorem Coherent.find?_eq_none (coherent : tree.Coherent) (unmarked : ¬ tree.label.erroneous) :
    tree.preorder.find? isFault = none := by
  rw [List.find?_eq_none]
  intro node member fault
  exact unmarked (coherent.erroneous_iff.mpr ⟨node, member, fault⟩)

/-- Leaving out the `trees` that are not `erroneous` does not change which `isFault` is found
first. -/
theorem find?_forestPreorder_filter {trees : List Tree} (coherent : ∀ tree ∈ trees, tree.Coherent) :
    (forestPreorder (trees.filter (·.label.erroneous))).find? isFault =
      (forestPreorder trees).find? isFault := by
  induction trees with
  | nil => rfl
  | cons first rest ih =>
      have others := ih fun tree member => coherent tree (List.mem_cons_of_mem _ member)
      rw [forestPreorder_cons, List.find?_append]
      by_cases marked : first.label.erroneous
      · rw [List.filter_cons_of_pos (by exact marked), forestPreorder_cons,
          List.find?_append, others]
      · -- A tree that is left out has nothing to be found.
        have nothing := (coherent first List.mem_cons_self).find?_eq_none marked
        rw [List.filter_cons_of_neg (by exact marked), others, nothing, Option.none_or]

/-- With `Coherent` marks, `firstFault pending` is the first node with `isFault` in document order.
The induction is that of `firstFault`. -/
theorem firstFault_eq_find? {pending : List Tree} (coherent : ∀ tree ∈ pending, tree.Coherent) :
    firstFault pending = (forestPreorder pending).find? isFault := by
  -- The pending trees stay coherent: those that a turn adds are children of one of them.
  fun_induction firstFault pending with
  | case1 => rfl
  | case2 tree rest fault =>
      rw [forestPreorder_cons, preorder_eq, List.cons_append, List.find?_cons_of_pos fault]
  | case3 tree rest fine ih =>
      have children : ∀ child ∈ tree.children, child.Coherent :=
        fun child below => (coherent tree List.mem_cons_self).below below
      have later : ∀ other ∈ rest, other.Coherent :=
        fun other member => coherent other (List.mem_cons_of_mem _ member)
      have pending :
          ∀ other ∈ tree.children.filter (·.label.erroneous) ++ rest, other.Coherent := by
        intro other member
        rcases List.mem_append.mp member with below | waiting
        · exact children other (List.mem_filter.mp below).1
        · exact later other waiting
      calc firstFault (tree.children.filter (·.label.erroneous) ++ rest)
          = (forestPreorder (tree.children.filter (·.label.erroneous) ++ rest)).find? isFault :=
            ih pending
        _ = (forestPreorder (tree.children ++ rest)).find? isFault := by
            rw [forestPreorder_append, forestPreorder_append, List.find?_append, List.find?_append,
              find?_forestPreorder_filter children]
        _ = (forestPreorder (tree :: rest)).find? isFault := by
            rw [forestPreorder_cons, preorder_eq, List.cons_append, List.find?_cons_of_neg fine,
              forestPreorder_append]

/-! ## The first error -/

/-- The node `fault` is the first syntax error of `tree`: it stands at `address`, and no node at an
earlier address is an error (`isFault`). -/
structure FirstFaultAt (tree : Tree) (address : List Nat) (fault : Tree) : Prop where
  /-- The node stands at the address. -/
  found : tree.subtree? address = some fault
  /-- The node is a syntax error. -/
  isFault : fault.isFault
  /-- The nodes before it are none. -/
  first : ∀ earlier < address, ∀ node, tree.subtree? earlier = some node → ¬ node.isFault

/-- The first node of the `preorder` with `isFault` is the `FirstFaultAt` its address. -/
theorem exists_firstFaultAt {fault : Tree} (found : tree.preorder.find? Tree.isFault = some fault) :
    ∃ address, tree.FirstFaultAt address fault := by
  obtain ⟨isFault, before, after, split, none⟩ := List.find?_eq_some_iff_append.mp found
  -- The addresses are cut where the document order is.
  have read := tree.map_subtree?_addresses
  rw [split, List.map_append, List.map_cons] at read
  obtain ⟨passed, others, addresses, readPassed, readOthers⟩ := List.map_eq_append_iff.mp read
  obtain ⟨address, later, rfl, readHere, _⟩ := List.map_eq_cons_iff.mp readOthers
  refine ⟨address, readHere, isFault, ?_⟩
  intro earlier lower node inside
  have increasing := tree.pairwise_addresses
  rw [addresses, List.pairwise_append, List.pairwise_cons] at increasing
  have member : earlier ∈ passed ++ address :: later := by
    rw [← addresses, mem_addresses_iff, inside, Option.isSome_some]
  rcases List.mem_append.mp member with isPassed | isLater
  · have inBefore : some node ∈ before.map some := by
      rw [← readPassed, ← inside]
      exact List.mem_map_of_mem isPassed
    obtain ⟨_, isBefore, same⟩ := List.mem_map.mp inBefore
    cases same
    simpa using none node isBefore
  · rcases List.mem_cons.mp isLater with rfl | isBehind
    · exact absurd lower (List.lt_irrefl _)
    · exact absurd (List.lt_trans lower (increasing.2.1.1 earlier isBehind)) (List.lt_irrefl _)

end Tree

/-! ## Failures -/

/-- The failure of `checkTree` is `faultOf path source tree`, exactly if the root is `erroneous`. -/
theorem checkTree_eq_error_iff {path : String} {source : Source} {tree : Tree}
    {failure : ParseFailure} :
    checkTree path source tree = .error failure ↔
      tree.label.erroneous ∧ faultOf path source tree = failure := by
  rw [checkTree]
  by_cases marked : tree.label.erroneous <;> simp [marked]

/-- If `firstFault` finds `fault`, `faultOf` names its kind, and the position at which it starts. -/
theorem faultOf_of_firstFault {path : String} {source : Source} {tree fault : Tree}
    (found : Tree.firstFault [tree] = some fault) :
    faultOf path source tree =
      ⟨path, s!"syntax error near {Text.quoted fault.kind}",
        some (source.position fault.label.start).line,
        some (source.position fault.label.start).column⟩ := by
  rw [faultOf, found]

/-- A text whose third word is an error, so that the end of its statement had to be made up. -/
def brokenText : String :=
  "ls\nif )\n"

/-- The tree of `brokenText`. The first statement is unmarked, and the error comes before the node
that was made up. -/
def brokenTree : Tree :=
  .node ⟨"program", 0, 8, true, false, true, ""⟩ [
    .node ⟨"command", 0, 2, true, false, false, ""⟩ [
      .node ⟨"command_name", 0, 2, true, false, false, "name"⟩ []],
    .node ⟨"if_statement", 3, 7, true, false, true, ""⟩ [
      .node ⟨"if", 3, 5, false, false, false, ""⟩ [],
      .node ⟨"ERROR", 6, 7, true, false, true, ""⟩ [],
      .node ⟨"fi", 7, 7, false, true, true, ""⟩ []]]

/-- Where a syntax error is reported.

(1) `parser.parse` fails exactly if the root of the tree is marked `erroneous`.

(2) If the marks are `Coherent`, `firstFault` finds the first node with `isFault` of the whole
`preorder`, and every failure has the `line` and the `column` of the node that is `FirstFaultAt`
some address; they denote the offset at which that node starts. -/
theorem parse_locates_first_fault (parser : Parser) (language : Language) (path content : String) :
    ((∃ failure, parser.parse language path content = .error failure) ↔
      (parser.tree language content).label.erroneous) ∧
    ((parser.tree language content).Coherent →
      Tree.firstFault [parser.tree language content] =
        (parser.tree language content).preorder.find? Tree.isFault ∧
      ∀ failure, parser.parse language path content = .error failure →
        ∃ address fault line column,
          (parser.tree language content).FirstFaultAt address fault ∧
          failure.line = some line ∧ failure.column = some column ∧
          (Source.ofText content).position fault.label.start = ⟨line, column⟩ ∧
          (fault.label.start ≤ content.utf8ByteSize →
            (Source.ofText content).Denotes ⟨line, column⟩ fault.label.start)) := by
  refine ⟨?_, fun coherent => ?_⟩
  · simp only [Parser.parse, checkTree_eq_error_iff, exists_and_left, exists_eq', and_true]
  · have search : Tree.firstFault [parser.tree language content] =
        (parser.tree language content).preorder.find? Tree.isFault := by
      rw [Tree.firstFault_eq_find? (by simpa using coherent), Tree.forestPreorder_cons,
        Tree.forestPreorder_nil, List.append_nil]
    refine ⟨search, ?_⟩
    intro failure failed
    obtain ⟨marked, rfl⟩ := checkTree_eq_error_iff.mp failed
    -- The search does not come back empty, since the mark of the root announces an error.
    obtain ⟨node, member, isFault⟩ := coherent.erroneous_iff.mp marked
    obtain ⟨fault, found⟩ :=
      Option.isSome_iff_exists.mp (List.find?_isSome.mpr ⟨node, member, isFault⟩)
    obtain ⟨address, first⟩ := Tree.exists_firstFaultAt found
    rw [faultOf_of_firstFault (search.trans found)]
    refine ⟨address, fault, _, _, first, rfl, rfl, rfl, fun inside => ?_⟩
    exact (Source.denotes_position_iff inside _).mpr rfl

/-- The error in `brokenText` is located on its second line. -/
theorem parse_locates_first_fault_broken :
    brokenTree.Coherent ∧
    Tree.firstFault [brokenTree] = brokenTree.preorder.find? Tree.isFault ∧
    ∃ failure, (Parser.mk fun _ _ => brokenTree).parse .bash "a.sh" brokenText = .error failure ∧
      failure.line = some 2 ∧ failure.column = some 4 ∧
      ∃ address fault, brokenTree.FirstFaultAt address fault ∧
        (Source.ofText brokenText).position fault.label.start = ⟨2, 4⟩ := by
  have coherent : brokenTree.Coherent := by decide
  obtain ⟨_, located⟩ :=
    parse_locates_first_fault (Parser.mk fun _ _ => brokenTree) .bash "a.sh" brokenText
  obtain ⟨search, points⟩ := located coherent
  have failed : (Parser.mk fun _ _ => brokenTree).parse .bash "a.sh" brokenText =
      .error (faultOf "a.sh" (.ofText brokenText) brokenTree) := rfl
  have onLine : (faultOf "a.sh" (.ofText brokenText) brokenTree).line = some 2 := by decide +kernel
  have inColumn :
      (faultOf "a.sh" (.ofText brokenText) brokenTree).column = some 4 := by decide +kernel
  obtain ⟨address, fault, line, column, first, isLine, isColumn, position, _⟩ := points _ failed
  cases onLine.symm.trans isLine
  cases inColumn.symm.trans isColumn
  exact ⟨coherent, search, _, failed, onLine, inColumn, address, fault, first, position⟩

end Footgun.Syntax
