import Footgun.Syntax.Tree

/-! # Document order

A node of a syntax tree is told apart from all others by its **address**: the indices of the
children on the way down to it. Equal subtrees at different places have different addresses, so
statements about each node being met once are statements about addresses. Main definitions:

* `Tree.subtree?` — the subtree at an address;
* `Tree.addresses` — the addresses of all nodes;
* `Tree.InDocumentOrder` — a list of addresses holds those of all nodes, strictly increasing in the
  lexicographic order, in which a node comes before those below it and a child before later ones;
* `Tree.trace` — the subtrees in the order in which the loop `Tree.visit` meets them.

The main statement is `Tree.map_subtree?_addresses`: reading a tree at its addresses gives
`preorder`. -/

namespace Footgun.Syntax.Tree

/-- A `motive` that holds of a node whenever it holds of its children holds of every tree. -/
theorem induction_on_children {motive : Tree → Prop}
    (step : ∀ label children, (∀ child ∈ children, motive child) → motive (node label children)) :
    ∀ tree, motive tree
  | node label children =>
      step label children fun child _member => induction_on_children step child
termination_by tree => sizeOf tree
decreasing_by
  have := List.sizeOf_lt_of_mem _member
  simp only [node.sizeOf_spec]
  omega

/-! ## Addresses -/

/-- The subtree of `tree` at an address, and nothing if the address leaves the tree. -/
def subtree? (tree : Tree) : List Nat → Option Tree
  | [] => some tree
  | index :: address => tree.children[index]?.bind fun child => child.subtree? address

/-- The empty address leads to the tree itself. -/
@[simp] theorem subtree?_nil (tree : Tree) : tree.subtree? [] = some tree := rfl

/-- The address `index :: address` leads to `address` in the child at `index`. -/
@[simp] theorem subtree?_cons (tree : Tree) (index : Nat) (address : List Nat) :
    tree.subtree? (index :: address) =
      tree.children[index]?.bind fun child => child.subtree? address := rfl

mutual

/-- The addresses of the nodes of a tree, each before those below it. -/
def addresses : Tree → List (List Nat)
  | node _ children => [] :: forestAddresses 0 children

/-- The addresses of the nodes of trees that are children from an index on. -/
def forestAddresses (index : Nat) : List Tree → List (List Nat)
  | [] => []
  | tree :: rest => (addresses tree).map (index :: ·) ++ forestAddresses (index + 1) rest

end

/-- The addresses in a node: its own, and then those of its children. -/
@[simp] theorem addresses_node (label : Label) (children : List Tree) :
    (node label children).addresses = [] :: forestAddresses 0 children := by
  rw [addresses]

/-- There are no addresses in no trees. -/
@[simp] theorem forestAddresses_nil (index : Nat) : forestAddresses index [] = [] := by
  rw [forestAddresses]

/-- The addresses in `tree :: rest`: those in `tree` behind `index`, and then those in `rest`. -/
@[simp] theorem forestAddresses_cons (index : Nat) (tree : Tree) (rest : List Tree) :
    forestAddresses index (tree :: rest) =
      tree.addresses.map (index :: ·) ++ forestAddresses (index + 1) rest := by
  rw [forestAddresses]

/-- The members of `forestAddresses index trees` are the index of a tree in front of an address in
it. -/
theorem mem_forestAddresses {index : Nat} {trees : List Tree} {address : List Nat} :
    address ∈ forestAddresses index trees ↔
      ∃ offset tree below, address = (index + offset) :: below ∧ trees[offset]? = some tree ∧
        below ∈ tree.addresses := by
  induction trees generalizing index with
  | nil => simp
  | cons first rest ih =>
      rw [forestAddresses_cons, List.mem_append, List.mem_map, ih]
      constructor
      · rintro (⟨below, member, rfl⟩ | ⟨offset, tree, below, rfl, found, member⟩)
        · exact ⟨0, first, below, rfl, rfl, member⟩
        · exact ⟨offset + 1, tree, below, by rw [Nat.add_right_comm, Nat.add_assoc], found, member⟩
      · rintro ⟨offset, tree, below, rfl, found, member⟩
        cases offset with
        | zero =>
            rw [List.getElem?_cons_zero, Option.some.injEq] at found
            exact .inl ⟨below, found ▸ member, rfl⟩
        | succ offset =>
            rw [List.getElem?_cons_succ] at found
            exact .inr ⟨offset, tree, below, by rw [Nat.add_right_comm, Nat.add_assoc],
              found, member⟩

/-- The members of `tree.addresses` are exactly the addresses where `subtree?` finds something. -/
theorem mem_addresses_iff {tree : Tree} {address : List Nat} :
    address ∈ tree.addresses ↔ (tree.subtree? address).isSome := by
  induction tree using induction_on_children generalizing address with
  | step label trees ih =>
      rw [addresses_node, List.mem_cons, mem_forestAddresses]
      cases address with
      | nil => simp
      | cons index below =>
          rw [subtree?_cons, children]
          constructor
          · rintro (same | ⟨offset, tree, inner, same, found, member⟩)
            · cases same
            · obtain ⟨rfl, rfl⟩ : index = offset ∧ below = inner := by simpa using same
              simpa [found] using (ih tree (List.mem_of_getElem? found)).mp member
          · -- The child that the address goes down to first is there, since the rest leads
            -- somewhere.
            intro inside
            cases found : trees[index]? with
            | none => simp [found] at inside
            | some tree =>
                have member :=
                  (ih tree (List.mem_of_getElem? found)).mpr (by simpa [found] using inside)
                exact .inr ⟨index, tree, below, by rw [Nat.zero_add], found, member⟩

/-- The addresses in a tree are strictly increasing. -/
theorem pairwise_addresses (tree : Tree) : tree.addresses.Pairwise (· < ·) := by
  induction tree using induction_on_children with
  | step label trees ih =>
      rw [addresses_node, List.pairwise_cons]
      constructor
      · intro address member
        obtain ⟨offset, _, below, rfl, _, _⟩ := mem_forestAddresses.mp member
        exact List.nil_lt_cons _ _
      · generalize 0 = index
        induction trees generalizing index with
        | nil => simp
        | cons first rest forest =>
            rw [forestAddresses_cons, List.pairwise_append, List.pairwise_map]
            refine ⟨?_, forest (fun tree member => ih tree (List.mem_cons_of_mem _ member)) _, ?_⟩
            · refine (ih first List.mem_cons_self).imp fun lower => ?_
              exact List.cons_lt_cons_iff.mpr (.inr ⟨rfl, lower⟩)
            · -- Addresses in later children start with a larger index.
              intro address member later memberLater
              obtain ⟨_, _, rfl⟩ := List.mem_map.mp member
              obtain ⟨offset, _, _, rfl, _, _⟩ := mem_forestAddresses.mp memberLater
              exact List.cons_lt_cons_iff.mpr (.inl (by omega))

/-- Reading `forestAddresses` by `subtree?` gives `forestPreorder`, also behind other children
`before`. -/
theorem map_subtree?_forestAddresses (label : Label) (before : List Tree) {trees : List Tree}
    (each : ∀ tree ∈ trees, tree.addresses.map tree.subtree? = tree.preorder.map some) :
    (forestAddresses before.length trees).map (node label (before ++ trees)).subtree? =
      (forestPreorder trees).map some := by
  induction trees generalizing before with
  | nil => simp
  | cons first rest ih =>
      have later := ih (before ++ [first])
        fun tree member => each tree (List.mem_cons_of_mem _ member)
      rw [List.length_append, List.length_singleton, List.append_assoc,
        List.singleton_append] at later
      rw [forestAddresses_cons, forestPreorder_cons, List.map_append, List.map_append, later,
        List.map_map, ← each first List.mem_cons_self]
      congr 1
      refine List.map_congr_left fun below _ => ?_
      simp [children]

/-- Reading `tree.addresses` by `subtree?` gives `tree.preorder`. The induction is on the tree. -/
theorem map_subtree?_addresses (tree : Tree) :
    tree.addresses.map tree.subtree? = tree.preorder.map some := by
  induction tree using induction_on_children with
  | step label trees ih =>
      have forest := map_subtree?_forestAddresses label [] ih
      rw [List.length_nil, List.nil_append] at forest
      rw [addresses_node, preorder_eq, List.map_cons, List.map_cons, forest, subtree?_nil, children]

/-! ## The order in which nodes are met -/

/-- The `list` runs through the addresses of all nodes of `tree` in document order, each once. -/
structure InDocumentOrder (tree : Tree) (list : List (List Nat)) : Prop where
  /-- The list holds the addresses of the nodes and no others. -/
  mem_iff : ∀ address, address ∈ list ↔ (tree.subtree? address).isSome
  /-- The addresses increase strictly. -/
  pairwise : list.Pairwise (· < ·)

/-- The addresses in a tree have `InDocumentOrder`. -/
theorem inDocumentOrder_addresses (tree : Tree) : tree.InDocumentOrder tree.addresses :=
  ⟨fun _ => mem_addresses_iff, pairwise_addresses tree⟩

/-- The subtrees that the loop over pending trees meets, in the order in which it meets them. -/
def trace (tree : Tree) : List Tree :=
  Id.run (visit (fun met node => pure (met ++ [node])) [tree] [])

/-- The loop `visit` with a `step` that has no effect is `foldl step` over the `preorder`. -/
theorem run_visit_eq_foldl {σ : Type} (step : σ → Tree → σ) (tree : Tree) (state : σ) :
    Id.run (visit (fun state node => pure (step state node)) [tree] state) =
      tree.preorder.foldl step state := by
  rw [visit_eq_foldlM, forestPreorder_cons, forestPreorder_nil, List.append_nil, List.foldlM_pure]
  rfl

/-- The `trace` of the loop is the `preorder` of the tree. -/
theorem trace_eq_preorder (tree : Tree) : tree.trace = tree.preorder := by
  rw [trace, run_visit_eq_foldl, List.foldl_append_eq_append, List.nil_append, ← List.flatMap_def,
    List.flatMap_singleton']

end Footgun.Syntax.Tree
