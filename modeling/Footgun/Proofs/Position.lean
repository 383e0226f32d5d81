import Footgun.Proofs.Decoding
import Mathlib.Data.List.Induction

/-! # Offsets and positions

A position counts the newlines before an offset and the bytes behind the last of them. Main
definitions:

* `Source.Denotes` — a position denotes an offset, said by counting the bytes before it;
* the order `≤` of positions, first by line and then by column;
* `Tree.Nested` — the spans of a tree lie inside each other, those of children one after the other.

The main statements are `Source.denotes_position_iff`, that the position of an offset denotes this
offset and no other, `Source.position_le_position`, that a later offset has a later position, and
`Tree.pairwise_start_preorder`, that nodes in document order start one after the other. -/

namespace Footgun.Syntax

/-! ## The order of positions -/

/-- Positions are ordered by line, and in a line by column. -/
instance : LE Position where
  le first second :=
    first.line < second.line ∨ first.line = second.line ∧ first.column ≤ second.column

/-- Positions are compared by their lines, and on one line by their columns. -/
theorem Position.le_def {first second : Position} :
    first ≤ second ↔
      first.line < second.line ∨ first.line = second.line ∧ first.column ≤ second.column :=
  Iff.rfl

namespace Source

/-! ## Counting the bytes before an offset -/

/-- The bytes of `source` before `offset`. -/
def before (source : Source) (offset : Nat) : List UInt8 :=
  source.bytes.data.toList.take offset

/-- The number of newlines before `offset`. -/
def newlinesBefore (source : Source) (offset : Nat) : Nat :=
  (source.before offset).count 10

/-- The number of bytes between the last newline before `offset`, or else the start, and the
offset. -/
def sinceNewline (source : Source) (offset : Nat) : Nat :=
  ((source.before offset).reverse.takeWhile (· ≠ 10)).length

/-- The `position` denotes the `offset`: with lines and columns counted from one, it tells how many
newlines come before the offset and how far it is from the last of them. -/
structure Denotes (source : Source) (position : Position) (offset : Nat) : Prop where
  /-- The offset does not lie behind the end. -/
  inside : offset ≤ source.bytes.size
  /-- The line counts the newlines. -/
  line : position.line = source.newlinesBefore offset + 1
  /-- The column counts the bytes behind the last newline. -/
  column : position.column = source.sinceNewline offset + 1

/-- Going through bytes by `advance` counts the newlines and the bytes behind the last one. -/
theorem foldl_advance (bytes : List UInt8) :
    bytes.foldl advance (0, 0) = (bytes.count 10, (bytes.reverse.takeWhile (· ≠ 10)).length) := by
  induction bytes using List.reverseRecOn with
  | nil => rfl
  | append_singleton bytes byte ih =>
      rw [List.foldl_append, ih, List.foldl_cons, List.foldl_nil, advance, List.reverse_append,
        List.reverse_singleton, List.singleton_append, List.count_append]
      by_cases newline : byte = 10
      · rw [if_pos newline, List.takeWhile_cons_of_neg (by simp [newline]), newline]
        simp
      · rw [if_neg newline, List.takeWhile_cons_of_pos (by simp [newline])]
        simp [newline]

/-- The place of an offset inside a source is given by `newlinesBefore` and `sinceNewline`. -/
theorem place_eq {source : Source} {offset : Nat} (inside : offset ≤ source.bytes.size) :
    source.place offset = (source.newlinesBefore offset, source.sinceNewline offset) := by
  have beyond : offset - source.bytes.size = 0 := by omega
  have bytes : (source.bytes.extract 0 offset).data.toList = source.before offset := by
    rw [ByteArray.data_extract, Array.toList_extract, List.extract_eq_take_drop, List.drop_zero,
      Nat.sub_zero, before]
  rw [place, beyond, bytes, foldl_advance]
  rfl

/-! ## Later offsets have later positions -/

/-- The place `first` stands before `second`: on an earlier line, or earlier on the same one. -/
def Precedes (first second : Nat × Nat) : Prop :=
  first.1 < second.1 ∨ first.1 = second.1 ∧ first.2 < second.2

/-- The order `Precedes` is transitive. -/
theorem Precedes.trans {first second third : Nat × Nat} (left : Precedes first second)
    (right : Precedes second third) : Precedes first third := by
  unfold Precedes at *
  omega

/-- A byte moves the place on. -/
theorem precedes_advance (place : Nat × Nat) (byte : UInt8) :
    Precedes place (advance place byte) := by
  unfold Precedes advance
  split
  · exact .inl (Nat.lt_succ_self _)
  · exact .inr ⟨rfl, Nat.lt_succ_self _⟩

/-- Bytes, if there are any, move the place on. -/
theorem precedes_foldl_advance {bytes : List UInt8} (nonempty : bytes ≠ []) (place : Nat × Nat) :
    Precedes place (bytes.foldl advance place) := by
  induction bytes generalizing place with
  | nil => exact absurd rfl nonempty
  | cons byte rest ih =>
      rw [List.foldl_cons]
      have step := precedes_advance place byte
      by_cases last : rest = []
      · rw [last, List.foldl_nil]
        exact step
      · exact step.trans (ih last (advance place byte))

/-- The counts at a later offset come later. -/
theorem precedes_of_lt {source : Source} {first second : Nat} (lt : first < second)
    (inside : second ≤ source.bytes.size) :
    Precedes (source.newlinesBefore first, source.sinceNewline first)
      (source.newlinesBefore second, source.sinceNewline second) := by
  -- The bytes before the later offset are those before the earlier one, and some more.
  have split : source.before second =
      source.before first ++ (source.bytes.data.toList.drop first).take (second - first) := by
    rw [before, before, ← List.take_add, Nat.add_sub_cancel' (Nat.le_of_lt lt)]
  have size : source.bytes.data.toList.length = source.bytes.size := by
    rw [Array.length_toList, ByteArray.size_data]
  have more : (source.bytes.data.toList.drop first).take (second - first) ≠ [] := by
    intro none
    have length := congrArg List.length none
    rw [List.length_take, List.length_drop, size, List.length_nil] at length
    omega
  have later := precedes_foldl_advance more ((source.before first).foldl advance (0, 0))
  rw [← List.foldl_append, ← split, foldl_advance, foldl_advance] at later
  exact later

/-- A later offset has a later position. -/
theorem position_le_position {source : Source} {first second : Nat} (le : first ≤ second)
    (inside : second ≤ source.bytes.size) : source.position first ≤ source.position second := by
  rw [Position.le_def, position, position, place_eq inside, place_eq (Nat.le_trans le inside)]
  rcases Nat.lt_or_eq_of_le le with lt | rfl
  · have later := precedes_of_lt lt inside
    unfold Precedes at later
    dsimp only at later ⊢
    omega
  · exact .inr ⟨rfl, Int.le_refl _⟩

/-- The position of an offset `Denotes` this offset and no other. -/
theorem denotes_position_iff {source : Source} {offset : Nat} (inside : offset ≤ source.bytes.size)
    (other : Nat) : source.Denotes (source.position offset) other ↔ other = offset := by
  constructor
  · rintro ⟨otherInside, line, column⟩
    rw [position, place_eq inside] at line column
    dsimp only at line column
    -- Different offsets have different counts, since those of the later one come later.
    rcases Nat.lt_trichotomy other offset with lt | same | lt
    · have later := precedes_of_lt lt inside
      unfold Precedes at later
      dsimp only at later
      omega
    · exact same
    · have later := precedes_of_lt lt otherInside
      unfold Precedes at later
      dsimp only at later
      omega
  · rintro rfl
    refine ⟨inside, ?_, ?_⟩
    · rw [position, place_eq inside]
    · rw [position, place_eq inside]

end Source

/-! ## Nested spans -/

namespace Tree

/-- The spans right below the node `tree` lie inside its span, one after the other. -/
structure NestedAt (tree : Tree) : Prop where
  /-- The node does not end before it starts. -/
  le : tree.label.start ≤ tree.label.stop
  /-- The children lie inside the node. -/
  inside : ∀ child ∈ tree.children,
    tree.label.start ≤ child.label.start ∧ child.label.stop ≤ tree.label.stop
  /-- A child starts only where those before it have ended. -/
  apart : tree.children.Pairwise fun first second => first.label.stop ≤ second.label.start

/-- All nodes of `tree` are `NestedAt`. -/
def Nested (tree : Tree) : Prop :=
  ∀ node ∈ tree.preorder, node.NestedAt

instance : DecidablePred NestedAt := fun tree =>
  decidable_of_iff
    (tree.label.start ≤ tree.label.stop ∧
      (∀ child ∈ tree.children,
        tree.label.start ≤ child.label.start ∧ child.label.stop ≤ tree.label.stop) ∧
      tree.children.Pairwise fun first second => first.label.stop ≤ second.label.start)
    ⟨fun ⟨le, inside, apart⟩ => ⟨le, inside, apart⟩, fun ⟨le, inside, apart⟩ => ⟨le, inside, apart⟩⟩

instance : DecidablePred Nested := fun tree =>
  inferInstanceAs (Decidable (∀ node ∈ tree.preorder, node.NestedAt))

/-- The root of a tree that is `Nested` is `NestedAt`. -/
theorem Nested.root {tree : Tree} (nested : tree.Nested) : tree.NestedAt :=
  nested tree tree.mem_preorder_self

/-- The `children` of a tree that is `Nested` are `Nested`. -/
theorem Nested.below {tree child : Tree} (nested : tree.Nested) (below : child ∈ tree.children) :
    child.Nested :=
  fun node member => nested node (mem_preorder_of_mem_children below member)

/-- Every node of a tree that is `Nested` lies inside the root's span. -/
theorem Nested.inside {tree node : Tree} (nested : tree.Nested) (member : node ∈ tree.preorder) :
    tree.label.start ≤ node.label.start ∧ node.label.start ≤ node.label.stop ∧
      node.label.stop ≤ tree.label.stop := by
  induction tree using induction_on_children with
  | step label trees ih =>
      rw [preorder_eq, List.mem_cons, mem_forestPreorder] at member
      rcases member with rfl | ⟨child, below, member⟩
      · exact ⟨Nat.le_refl _, nested.root.le, Nat.le_refl _⟩
      · have outer := nested.root.inside child below
        have inner := ih child below (nested.below below) member
        omega

/-- The nodes of a tree that is `Nested` start one after the other in its `preorder`. -/
theorem pairwise_start_preorder {tree : Tree} (nested : tree.Nested) :
    tree.preorder.Pairwise fun first second => first.label.start ≤ second.label.start := by
  induction tree using induction_on_children with
  | step label trees ih =>
      rw [preorder_eq, List.pairwise_cons]
      constructor
      · intro node member
        refine (nested.inside ?_).1
        rw [preorder_eq]
        exact List.mem_cons_of_mem _ member
      · have children := nested.root.apart
        have each : ∀ child ∈ trees, child.Nested := fun child below => nested.below below
        clear nested
        -- Over the children: those of the first one start before its end, all others behind it.
        show (forestPreorder trees).Pairwise _
        induction trees with
        | nil => exact List.Pairwise.nil
        | cons first rest forest =>
            rw [Tree.children, List.pairwise_cons] at children
            rw [forestPreorder_cons, List.pairwise_append]
            refine ⟨ih first List.mem_cons_self (each first List.mem_cons_self), ?_, ?_⟩
            · exact forest (fun child below => ih child (List.mem_cons_of_mem _ below)) children.2
                fun child below => each child (List.mem_cons_of_mem _ below)
            · intro node member later memberLater
              obtain ⟨child, below, inChild⟩ := mem_forestPreorder.mp memberLater
              have here := (each first List.mem_cons_self).inside member
              have there := (each child (List.mem_cons_of_mem _ below)).inside inChild
              have apart := children.1 child below
              omega

end Tree

end Footgun.Syntax
