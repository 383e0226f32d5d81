/-! # Syntax trees

A syntax tree is what a parser hands over: every node has a kind, a span of bytes, a few marks and
perhaps a field name in its parent. Main definitions:

* `Tree.preorder` — the subtrees in document order, by plain recursion;
* `Tree.visit` — a loop over the same subtrees with a list of pending ones, for trees of any depth;
* `Tree.firstFault` — the first syntax error, looked for only where the marks announce one;
* `Tree.ofPreorder` — the tree of a list of labels with depths.

The main statement is `Tree.visit_eq_foldlM`: the loop visits exactly the subtrees of `preorder`, in
that order. -/

namespace Footgun.Syntax

/-- What the parser records about one node. -/
structure Label where
  /-- The node's grammatical kind. -/
  kind : String
  /-- The offset of its first byte. -/
  start : Nat
  /-- The offset behind its last byte. -/
  stop : Nat
  /-- Whether it is a named node, and no mere token. -/
  named : Bool
  /-- Whether the parser made it up to repair the text. -/
  missing : Bool
  /-- Whether it is marked to hold a syntax error. -/
  erroneous : Bool
  /-- Its field name in its parent, or nothing. -/
  field : String
  deriving DecidableEq, Repr

/-- A node and the trees below it. -/
inductive Tree where
  /-- A node with its label and its children in document order. -/
  | node (label : Label) (children : List Tree)
  deriving Repr

namespace Tree

/-- The label of the root. -/
def label : Tree → Label
  | node label _ => label

/-- The trees right below the root. -/
def children : Tree → List Tree
  | node _ children => children

/-- The kind of the root. -/
abbrev kind (tree : Tree) : String :=
  tree.label.kind

/-- The children that are named nodes. -/
def namedChildren (tree : Tree) : List Tree :=
  tree.children.filter (·.label.named)

/-- The first child with a field name. -/
def child? (tree : Tree) (field : String) : Option Tree :=
  tree.children.find? (·.label.field == field)

/-! ## Size and document order -/

mutual

/-- The number of nodes of a tree. -/
def size : Tree → Nat
  | node _ children => forestSize children + 1

/-- The number of nodes of a list of trees. -/
def forestSize : List Tree → Nat
  | [] => 0
  | tree :: rest => size tree + forestSize rest

end

mutual

/-- All subtrees in document order, each before those below it. -/
def preorder : Tree → List Tree
  | node label children => node label children :: forestPreorder children

/-- All subtrees of a list of trees in document order. -/
def forestPreorder : List Tree → List Tree
  | [] => []
  | tree :: rest => preorder tree ++ forestPreorder rest

end

@[simp] theorem forestSize_nil : forestSize [] = 0 := by
  simp [forestSize]

@[simp] theorem forestSize_cons (tree : Tree) (rest : List Tree) :
    forestSize (tree :: rest) = tree.size + forestSize rest := by
  simp [forestSize]

@[simp] theorem forestSize_append (first second : List Tree) :
    forestSize (first ++ second) = forestSize first + forestSize second := by
  induction first with
  | nil => simp
  | cons tree rest ih => simp [ih, Nat.add_assoc]

/-- A tree has one node more than its children. -/
theorem size_eq (tree : Tree) : tree.size = forestSize tree.children + 1 := by
  cases tree
  simp [size, children]

@[simp] theorem forestPreorder_nil : forestPreorder [] = [] := by
  simp [forestPreorder]

@[simp] theorem forestPreorder_cons (tree : Tree) (rest : List Tree) :
    forestPreorder (tree :: rest) = tree.preorder ++ forestPreorder rest := by
  simp [forestPreorder]

@[simp] theorem forestPreorder_append (first second : List Tree) :
    forestPreorder (first ++ second) = forestPreorder first ++ forestPreorder second := by
  induction first with
  | nil => simp
  | cons tree rest ih => simp [ih, List.append_assoc]

/-- A tree comes first in its own document order. -/
theorem preorder_eq (tree : Tree) : tree.preorder = tree :: forestPreorder tree.children := by
  cases tree
  simp [preorder, children]

/-! ## Visiting every subtree -/

/-- Runs a step on every subtree of the pending trees in document order. The children of a visited
node are put in front of what is pending. -/
@[specialize] def visit {m : Type → Type} [Monad m] {σ : Type} (step : σ → Tree → m σ) :
    List Tree → σ → m σ
  | [], state => pure state
  | tree :: rest, state => do
    let state ← step state tree
    visit step (tree.children ++ rest) state
termination_by pending => forestSize pending
decreasing_by
  simp only [forestSize_append, forestSize_cons, size_eq tree]
  omega

/-- Visiting is a fold over the document order. -/
theorem visit_eq_foldlM {m : Type → Type} [Monad m] [LawfulMonad m] {σ : Type}
    (step : σ → Tree → m σ) (pending : List Tree) (state : σ) :
    visit step pending state = (forestPreorder pending).foldlM step state := by
  fun_induction visit step pending state with
  | case1 state => simp
  | case2 tree rest state ih => simp [preorder_eq tree, ih]

/-! ## Syntax errors -/

/-- Whether a node is itself a syntax error: text that fits nowhere, or a node made up. -/
def isFault (tree : Tree) : Bool :=
  tree.kind == "ERROR" || tree.label.missing

/-- Dropping trees does not add nodes. -/
theorem forestSize_filter_le (keep : Tree → Bool) (trees : List Tree) :
    forestSize (trees.filter keep) ≤ forestSize trees := by
  induction trees with
  | nil => simp
  | cons tree rest ih =>
    by_cases h : keep tree <;> simp [h] <;> omega

/-- The first syntax error among the pending trees in document order. Only children that are marked
to hold an error are searched. -/
def firstFault : List Tree → Option Tree
  | [] => none
  | tree :: rest =>
    if tree.isFault then some tree
    else firstFault (tree.children.filter (·.label.erroneous) ++ rest)
termination_by pending => forestSize pending
decreasing_by
  have := forestSize_filter_le (·.label.erroneous) tree.children
  simp only [forestSize_append, forestSize_cons, size_eq tree]
  omega

/-! ## Trees from labels with depths -/

/-- Puts a node in front of the trees that follow it in document order. The trees that are deeper
become its children. -/
def adopt (depth : Nat) (label : Label) (following : List (Nat × Tree)) : List (Nat × Tree) :=
  let below := following.takeWhile (depth < ·.1)
  (depth, node label (below.map (·.2))) :: following.dropWhile (depth < ·.1)

/-- The tree whose labels, with their depths, are given in document order. -/
def ofPreorder (labels : List (Nat × Label)) : Option Tree :=
  ((labels.foldr (fun entry following => adopt entry.1 entry.2 following) []).head?).map (·.2)

end Tree

end Footgun.Syntax
