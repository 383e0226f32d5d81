import Footgun.Proofs.DocumentOrder
import Footgun.Proofs.Failing
import Footgun.Shell.Script

/-! # Trees that respect characters

Reading a shell tree decodes many slices of the source: whole nodes, and the gaps between the
interpolations of a string in double quotes. A slice that cuts a character in two cannot be decoded.
A parser never builds such a tree: its spans start and end between characters, lie inside each
other, and a string in double quotes starts and ends with a character of one byte. Main definitions:

* `Syntax.IsBoundary` — an offset stands between two characters;
* `Syntax.Tree.Fits` — the spans of a tree respect the characters of a text.

The main statement is `Shell.isSome_readScript`: every part of a tree that respects the characters
can be read. -/

namespace Footgun

namespace Syntax

/-! ## Spans between characters -/

/-- Whether `offset`, into the bytes of `text`, stands between two characters, or at an end. -/
def IsBoundary (text : String) (offset : Nat) : Prop :=
  (⟨offset⟩ : String.Pos.Raw).IsValid text

instance (text : String) (offset : Nat) : Decidable (IsBoundary text offset) :=
  inferInstanceAs (Decidable ((⟨offset⟩ : String.Pos.Raw).IsValid text))

/-- The bytes between two offsets with `IsBoundary` can be decoded. -/
theorem isSome_decode?_extract {text : String} {start stop : Nat} (first : IsBoundary text start)
    (last : IsBoundary text stop) :
    (Text.decode? (text.toByteArray.extract start stop)).isSome := by
  have slice : Text.decode? (text.toByteArray.extract start stop) =
      some (text.extract ⟨⟨start⟩, first⟩ ⟨⟨stop⟩, last⟩) := by
    rw [Text.decode?_eq_some_iff, String.toByteArray_extract]
  rw [slice, Option.isSome_some]

namespace Tree

/-- The span of the node `tree` respects the characters of `text`: it starts and ends between them
(`IsBoundary`), and so do the quotes of a string. The spans of the children lie inside. -/
structure FitsAt (text : String) (tree : Tree) : Prop where
  /-- The node starts between two characters. -/
  start : IsBoundary text tree.label.start
  /-- The node ends between two characters. -/
  stop : IsBoundary text tree.label.stop
  /-- The node does not end before it starts. -/
  le : tree.label.start ≤ tree.label.stop
  /-- The children lie inside the node. -/
  nested : ∀ child ∈ tree.children,
    tree.label.start ≤ child.label.start ∧ child.label.stop ≤ tree.label.stop
  /-- A string in double quotes starts and ends with a character of one byte. -/
  quoted : tree.kind = "string" → tree.label.start + 2 ≤ tree.label.stop ∧
    IsBoundary text (tree.label.start + 1) ∧ IsBoundary text (tree.label.stop - 1)

/-- The spans of all nodes of `tree` respect the characters of `text`, by `FitsAt`. -/
def Fits (text : String) (tree : Tree) : Prop :=
  ∀ node ∈ tree.preorder, node.FitsAt text

/-- The spans of a tree respect the characters of a text: this can be checked node by node. -/
instance (text : String) : DecidablePred (FitsAt text) := fun tree =>
  decidable_of_iff
    (IsBoundary text tree.label.start ∧ IsBoundary text tree.label.stop ∧
      tree.label.start ≤ tree.label.stop ∧
      (∀ child ∈ tree.children,
        tree.label.start ≤ child.label.start ∧ child.label.stop ≤ tree.label.stop) ∧
      (tree.kind = "string" → tree.label.start + 2 ≤ tree.label.stop ∧
        IsBoundary text (tree.label.start + 1) ∧ IsBoundary text (tree.label.stop - 1)))
    ⟨fun ⟨start, stop, le, nested, quoted⟩ => ⟨start, stop, le, nested, quoted⟩,
      fun ⟨start, stop, le, nested, quoted⟩ => ⟨start, stop, le, nested, quoted⟩⟩

instance (text : String) : DecidablePred (Fits text) := fun tree =>
  inferInstanceAs (Decidable (∀ node ∈ tree.preorder, node.FitsAt text))

/-- The members of `forestPreorder trees` are those of the `preorder` of one of the `trees`. -/
theorem mem_forestPreorder {node : Tree} {trees : List Tree} :
    node ∈ forestPreorder trees ↔ ∃ tree ∈ trees, node ∈ tree.preorder := by
  induction trees with
  | nil => simp
  | cons first rest ih => rw [forestPreorder_cons, List.mem_append, ih]; simp

/-- A tree is in its own `preorder`. -/
theorem mem_preorder_self (tree : Tree) : tree ∈ tree.preorder := by
  rw [preorder_eq]
  exact List.mem_cons_self

/-- What is in the `preorder` of a child is in that of the tree. -/
theorem mem_preorder_of_mem_children {node child tree : Tree} (below : child ∈ tree.children)
    (member : node ∈ child.preorder) : node ∈ tree.preorder := by
  rw [preorder_eq, List.mem_cons, mem_forestPreorder]
  exact .inr ⟨child, below, member⟩

variable {text : String} {tree : Tree}

/-- From `tree.Fits text` follows `tree.FitsAt text`. -/
theorem Fits.root (fits : tree.Fits text) : tree.FitsAt text :=
  fits tree tree.mem_preorder_self

/-- From `tree.Fits text` follows `Fits` for each of its children. -/
theorem Fits.below (fits : tree.Fits text) {child : Tree} (below : child ∈ tree.children) :
    child.Fits text :=
  fun node member => fits node (mem_preorder_of_mem_children below member)

/-- From `tree.Fits text` follows `Fits` for each node of its `preorder`. -/
theorem Fits.subtree (fits : tree.Fits text) {node : Tree} (member : node ∈ tree.preorder) :
    node.Fits text := by
  induction tree using induction_on_children with
  | step label trees ih =>
      rw [preorder_eq, List.mem_cons, mem_forestPreorder] at member
      obtain rfl | ⟨child, below, inside⟩ := member
      · exact fits
      · exact ih child below (fits.below below) inside

/-- A node with `FitsAt text` has a text in `Source.ofText text`. -/
theorem FitsAt.isSome_text? (fits : tree.FitsAt text) : ((Source.ofText text).text? tree).isSome :=
  isSome_decode?_extract fits.start fits.stop

/-- The `namedChildren` of a tree are among its `children`. -/
theorem mem_children_of_mem_namedChildren {child : Tree} (member : child ∈ tree.namedChildren) :
    child ∈ tree.children :=
  (List.mem_filter.mp member).1

/-- What `child?` finds is among the `children`. -/
theorem mem_children_of_child? {child : Tree} {field : String}
    (found : tree.child? field = some child) : child ∈ tree.children :=
  List.mem_of_find?_eq_some found

end Tree

end Syntax

/-! ## Reading shell trees -/

namespace Shell

open Syntax (Tree Source IsBoundary isSome_decode?_extract cut wrapOffset)

variable {text : String} {tree : Tree}

/-- In a tree that `Fits text`, `renderInterpolation` gives a word. -/
theorem isSome_renderInterpolation (fits : tree.Fits text) :
    (renderInterpolation (Source.ofText text) tree).isSome := by
  rw [renderInterpolation]
  split
  · rename_i name found
    have below : name ∈ tree.children := by
      split at found
      · exact List.mem_of_find?_eq_some found
      · cases found
    rw [Option.isSome_map]
    exact (fits.below below).root.isSome_text?
  · rw [Option.isSome_map]
    exact fits.root.isSome_text?

/-- For offsets that do not lie before the node, `between?` reads the source from `start` to `stop`,
but not beyond the end of the node. -/
theorem between?_span (source : Source) (tree : Tree) {start stop : Nat}
    (startInside : tree.label.start ≤ start) (stopInside : tree.label.start ≤ stop) :
    between? (source.span tree) tree.label.start start stop =
      Text.decode? (source.bytes.extract start (min stop tree.label.stop)) := by
  have slice : cut (source.span tree) ((start : Int) - tree.label.start)
      ((stop : Int) - tree.label.start) =
        source.bytes.extract start (min stop tree.label.stop) := by
    rw [cut, wrapOffset, wrapOffset, if_neg (by omega), if_neg (by omega), Source.span,
      ByteArray.extract_extract]
    congr 1 <;> omega
  rw [between?, slice]

/-- For offsets with `IsBoundary` that do not lie before the node, `between?` gives a text. -/
theorem isSome_between? (fits : tree.FitsAt text) {start stop : Nat} (first : IsBoundary text start)
    (last : IsBoundary text stop) (startInside : tree.label.start ≤ start)
    (stopInside : tree.label.start ≤ stop) :
    (between? ((Source.ofText text).span tree) tree.label.start start stop).isSome := by
  rw [between?_span _ _ startInside stopInside]
  -- The span ends between two characters as well, wherever the slice is cut off.
  obtain cutOff | cutOff := Nat.le_total stop tree.label.stop
  · rw [Nat.min_eq_left cutOff]
    exact isSome_decode?_extract first last
  · rw [Nat.min_eq_right cutOff]
    exact isSome_decode?_extract first fits.stop

/-- If all `children` fit and do not lie before the node, `splice` gives a word. The induction is on
`children`: each of them moves `place` to its own end. -/
theorem isSome_splice (fits : tree.FitsAt text) {stop : Nat} (last : IsBoundary text stop)
    (stopInside : tree.label.start ≤ stop) {children : List Tree}
    (inside : ∀ child ∈ children, child.Fits text ∧ tree.label.start ≤ child.label.start)
    {place : Nat} (first : IsBoundary text place) (placeInside : tree.label.start ≤ place) :
    (splice (Source.ofText text) ((Source.ofText text).span tree) tree.label.start stop children
      place).isSome := by
  induction children generalizing place with
  | nil =>
      rw [splice]
      split
      · rw [Option.isSome_map]
        exact isSome_between? fits first last placeInside stopInside
      · rfl
  | cons child rest ih =>
      -- Before a child, the child itself and what follows it can be read one after the other.
      obtain ⟨childFits, childInside⟩ := inside child List.mem_cons_self
      have childStop : tree.label.start ≤ child.label.stop :=
        Nat.le_trans childInside childFits.root.le
      obtain ⟨before, foundBefore⟩ := Option.isSome_iff_exists.mp
        (isSome_between? fits first childFits.root.start placeInside childInside)
      obtain ⟨word, foundWord⟩ := Option.isSome_iff_exists.mp (isSome_renderInterpolation childFits)
      obtain ⟨after, foundAfter⟩ := Option.isSome_iff_exists.mp
        (ih (fun other member => inside other (List.mem_cons_of_mem _ member)) childFits.root.stop
          childStop)
      simp [splice, foundBefore, foundWord, foundAfter]

/-- In a tree that `Fits text`, `renderQuoted` gives a word for a `"string"`. -/
theorem isSome_renderQuoted (fits : tree.Fits text) (string : tree.kind = "string") :
    (renderQuoted (Source.ofText text) tree).isSome := by
  obtain ⟨long, afterQuote, beforeQuote⟩ := fits.root.quoted string
  have stop : (tree.label.stop : Int) - 1 = ((tree.label.stop - 1 : Nat) : Int) := by omega
  rw [renderQuoted, stop]
  refine isSome_splice fits.root beforeQuote (by omega) ?_ afterQuote (by omega)
  intro child member
  have below := Tree.mem_children_of_mem_namedChildren (List.mem_filter.mp member).1
  exact ⟨fits.below below, (fits.root.nested child below).1⟩

/-- If `renderWord` gives a word for each of `parts`, so does `renderParts` for all of them. -/
theorem isSome_renderParts {source : Source} {parts : List Tree}
    (each : ∀ part ∈ parts, (renderWord source part).isSome) :
    (renderParts source parts).isSome := by
  induction parts with
  | nil => simp [renderParts]
  | cons part rest ih =>
      obtain ⟨first, foundFirst⟩ := Option.isSome_iff_exists.mp (each part List.mem_cons_self)
      obtain ⟨others, foundOthers⟩ := Option.isSome_iff_exists.mp
        (ih fun other member => each other (List.mem_cons_of_mem _ member))
      simp [renderParts, foundFirst, foundOthers]

/-- In a tree that `Fits text`, `renderWord` gives a word. The induction is on the tree. -/
theorem isSome_renderWord (fits : tree.Fits text) :
    (renderWord (Source.ofText text) tree).isSome := by
  induction tree using Tree.induction_on_children with
  | step label trees ih =>
      -- Every kind of word is rendered from its whole text, its interpolations or its parts.
      have whole := fits.root.isSome_text?
      rw [renderWord]
      split
      · rwa [Option.isSome_map]
      split
      · rwa [Option.isSome_map]
      split
      · rename_i string
        exact isSome_renderQuoted fits string
      split
      · exact isSome_renderInterpolation fits
      split
      · exact isSome_renderParts fun part below => ih part below (fits.below below)
      · rwa [Option.isSome_map]

/-- In a tree that `Fits text`, `nameOfPart` gives a name. -/
theorem isSome_nameOfPart (fits : tree.Fits text) :
    (nameOfPart (Source.ofText text) tree).isSome := by
  have whole := fits.root.isSome_text?
  rw [nameOfPart]
  split
  · exact whole
  split
  · rwa [Option.isSome_map]
  split
  · split
    · rwa [Option.isSome_map]
    · rename_i first rest parts
      split
      · have below : first ∈ tree.children :=
          Tree.mem_children_of_mem_namedChildren (by rw [parts]; exact List.mem_cons_self)
        exact (fits.below below).root.isSome_text?
      · rfl
  split
  · rw [Option.isSome_map]
    exact isSome_renderWord fits
  · rfl

/-- In a tree that `Fits text`, `commandName` gives a name. -/
theorem isSome_commandName (fits : tree.Fits text) :
    (commandName (Source.ofText text) tree).isSome := by
  rw [commandName]
  split
  · rfl
  · rename_i name found
    have nameFits := fits.below (Tree.mem_children_of_child? found)
    split
    · exact nameFits.root.isSome_text?
    · rename_i part rest parts
      refine isSome_nameOfPart (nameFits.below (Tree.mem_children_of_mem_namedChildren ?_))
      rw [parts]
      exact List.mem_cons_self

/-- In a tree that `Fits text`, `commandOf` can be read. -/
theorem isSome_commandOf (fits : tree.Fits text) :
    (commandOf (Source.ofText text) tree).isSome := by
  have words : ((argumentNodes tree).mapM (renderWord (Source.ofText text))).isSome := by
    refine isSome_mapM fun node member => isSome_renderWord (fits.below ?_)
    exact (List.dropWhile_sublist _).subset (List.mem_filter.mp member).1
  obtain ⟨name, foundName⟩ := Option.isSome_iff_exists.mp (isSome_commandName fits)
  obtain ⟨arguments, foundArguments⟩ := Option.isSome_iff_exists.mp words
  rw [commandOf, foundName]
  by_cases empty : name = "" <;> simp [empty, foundArguments]

/-- In a tree that `Fits text`, `assign` gives a table. -/
theorem isSome_assign (fits : tree.Fits text) (table : Bindings) :
    (assign (Source.ofText text) table tree).isSome := by
  rw [assign]
  split
  · rfl
  · rename_i name foundName
    split
    · rfl
    · obtain ⟨variableName, readName⟩ := Option.isSome_iff_exists.mp
        (fits.below (Tree.mem_children_of_child? foundName)).root.isSome_text?
      cases foundValue : tree.child? "value" with
      | none => simp [readName]
      | some value =>
          obtain ⟨word, rendered⟩ := Option.isSome_iff_exists.mp
            (isSome_renderWord (fits.below (Tree.mem_children_of_child? foundValue)))
          by_cases array : value.kind = "array" <;> simp [array, readName, rendered]

/-- In a tree that `Fits text`, `declareNames` gives a table. -/
theorem isSome_declareNames (fits : tree.Fits text) (table : Bindings) :
    (declareNames (Source.ofText text) table tree).isSome := by
  have names : ((tree.children.filter (·.kind == "variable_name")).mapM
      (Source.ofText text).text?).isSome :=
    isSome_mapM fun node member => (fits.below (List.mem_filter.mp member).1).root.isSome_text?
  obtain ⟨list, found⟩ := Option.isSome_iff_exists.mp names
  simp [declareNames, found]

/-- In a tree that `Fits text`, `readNode` gives a script. -/
theorem isSome_readNode (fits : tree.Fits text) (script : Script) :
    (readNode (Source.ofText text) script tree).isSome := by
  rw [readNode]
  split
  · obtain ⟨command?, found⟩ := Option.isSome_iff_exists.mp (isSome_commandOf fits)
    cases command? <;> simp [found]
  split
  · obtain ⟨table, found⟩ := Option.isSome_iff_exists.mp (isSome_assign fits script.bindings)
    simp [found]
  split
  · obtain ⟨table, found⟩ := Option.isSome_iff_exists.mp (isSome_declareNames fits script.bindings)
    simp [found]
  · rfl

/-- In a tree that `Fits text`, `readScript` gives a script. -/
theorem isSome_readScript (fits : tree.Fits text) :
    (readScript (Source.ofText text) tree).isSome := by
  rw [readScript, Tree.visit_eq_foldlM, Tree.forestPreorder_cons, Tree.forestPreorder_nil,
    List.append_nil]
  exact isSome_foldlM (fun script node member => isSome_readNode (fits.subtree member) script) _

end Shell

end Footgun
