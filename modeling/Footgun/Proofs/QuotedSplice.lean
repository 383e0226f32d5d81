import Footgun.Proofs.ExpandedWord

/-! # Strings in double quotes

A string in double quotes is rendered by putting the words of its interpolations in place of their
spans. Main definitions:

* `Syntax.Source.slice?` — the text between two offsets;
* `Shell.gapSpans` — what the interpolations of a string leave over between its quotes;
* `weave` — gaps and the texts between them, one after the other;
* `Shell.QuotedSpans` — the interpolations of a string lie between its quotes, one after the other.

The main statement is `Shell.renderQuoted_weaves`. -/

namespace Footgun

/-! ## Texts in turn -/

/-- Gaps and texts in turn, starting with a gap. -/
def weave : List String → List String → String
  | gap :: gaps, text :: texts => gap ++ text ++ weave gaps texts
  | gaps, _ => String.join gaps

/-- Weaving goes through the gaps and the texts in turn. -/
@[simp] theorem weave_cons_cons (gap text : String) (gaps texts : List String) :
    weave (gap :: gaps) (text :: texts) = gap ++ text ++ weave gaps texts := rfl

/-- Without texts, there is only one gap. -/
@[simp] theorem weave_singleton (gap : String) : weave [gap] [] = gap := by
  simp [weave]

/-! ## Origins of words put together -/

/-- The origin of words put together. -/
def originOf (words : List Word) : Origin :=
  (words.map (·.origin)).foldr Origin.merge .literal

/-- What is merged is `.unresolved` exactly if one of both is. -/
theorem Origin.merge_eq_unresolved_iff {first second : Origin} :
    first.merge second = .unresolved ↔ first = .unresolved ∨ second = .unresolved := by
  cases first <;> cases second <;> decide

/-- What is merged is `.literal` exactly if both are. -/
theorem Origin.merge_eq_literal_iff {first second : Origin} :
    first.merge second = .literal ↔ first = .literal ∧ second = .literal := by
  cases first <;> cases second <;> decide

/-- There are three origins. -/
theorem Origin.eq_variable_iff {origin : Origin} :
    origin = .variable ↔ origin ≠ .literal ∧ origin ≠ .unresolved := by
  cases origin <;> decide

/-- The origin of words together is `.unresolved` exactly if that of one of them is. -/
theorem originOf_eq_unresolved_iff {words : List Word} :
    originOf words = .unresolved ↔ ∃ word ∈ words, word.origin = .unresolved := by
  induction words with
  | nil => simp [originOf]
  | cons word rest ih =>
      have step : originOf (word :: rest) = word.origin.merge (originOf rest) := rfl
      rw [step, Origin.merge_eq_unresolved_iff, ih]
      simp

/-- The origin of words together is `.literal` exactly if that of all of them is. -/
theorem originOf_eq_literal_iff {words : List Word} :
    originOf words = .literal ↔ ∀ word ∈ words, word.origin = .literal := by
  induction words with
  | nil => simp [originOf]
  | cons word rest ih =>
      have step : originOf (word :: rest) = word.origin.merge (originOf rest) := rfl
      rw [step, Origin.merge_eq_literal_iff, ih]
      simp

/-! ## Texts between offsets -/

namespace Syntax.Source

/-- The text of `source` between `start` and `stop`, if it holds whole characters. -/
def slice? (source : Source) (start stop : Nat) : Option String :=
  Text.decode? (source.bytes.extract start stop)

/-- Texts of spans that follow each other are read as one. -/
theorem slice?_append {source : Source} {start middle stop : Nat} {first second : String}
    (le : start ≤ middle) (le' : middle ≤ stop)
    (readFirst : source.slice? start middle = some first)
    (readSecond : source.slice? middle stop = some second) :
    source.slice? start stop = some (first ++ second) := by
  rw [slice?, Text.decode?_eq_some_iff] at *
  rw [String.toByteArray_append, readFirst, readSecond]
  exact (ByteArray.extract_eq_extract_append_extract middle le le').symm

end Syntax.Source

namespace Shell

open Syntax (Tree Source IsBoundary isSome_decode?_extract)
open Scan (branch)

/-- The spans that `nodes` leave over between `start` and `stop`: before the first one, between
them, and behind the last one. -/
def gapsFrom (start stop : Nat) (nodes : List Tree) : List (Nat × Nat) :=
  (start :: nodes.map (·.label.stop)).zip (nodes.map (·.label.start) ++ [stop])

/-- Without nodes, there is one gap from `start` to `stop`. -/
theorem gapsFrom_nil (start stop : Nat) : gapsFrom start stop [] = [(start, stop)] := rfl

/-- A node leaves the gap in front of it, and those behind it. -/
theorem gapsFrom_cons (start stop : Nat) (node : Tree) (rest : List Tree) :
    gapsFrom start stop (node :: rest) =
      (start, node.label.start) :: gapsFrom node.label.stop stop rest := rfl

/-- What the `interpolations` of a string leave over between its quotes. -/
def gapSpans (tree : Tree) : List (Nat × Nat) :=
  gapsFrom (tree.label.start + 1) (tree.label.stop - 1) (interpolations tree)

/-- The texts of `spans`. -/
def slices? (source : Source) (spans : List (Nat × Nat)) : Option (List String) :=
  spans.mapM fun span => source.slice? span.1 span.2

/-- The texts of spans are those of the first one and of the others. -/
theorem slices?_cons_eq_some_iff {source : Source} {start stop : Nat} {spans : List (Nat × Nat)}
    {texts : List String} :
    slices? source ((start, stop) :: spans) = some texts ↔
      ∃ first rest, source.slice? start stop = some first ∧ slices? source spans = some rest ∧
        texts = first :: rest := by
  simp [slices?, Option.bind_eq_some_iff, eq_comm (a := texts)]

/-! ## Nodes one after the other -/

/-- Nodes lie between two offsets, one after the other, and all spans start and end between
characters of `text` (`IsBoundary`). -/
inductive InOrder (text : String) (stop : Nat) : Nat → List Tree → Prop
  /-- No node. -/
  | nil {start : Nat} (first : IsBoundary text start) (le : start ≤ stop) :
      InOrder text stop start []
  /-- A node, and others behind it. -/
  | cons {start : Nat} {node : Tree} {rest : List Tree} (first : IsBoundary text start)
    (before : start ≤ node.label.start) (opens : IsBoundary text node.label.start)
    (le : node.label.start ≤ node.label.stop) (more : InOrder text stop node.label.stop rest) :
    InOrder text stop start (node :: rest)

/-- The text between two offsets with `IsBoundary` can be read. -/
theorem exists_slice {text : String} {start stop : Nat} (first : IsBoundary text start)
    (last : IsBoundary text stop) : ∃ slice, (Source.ofText text).slice? start stop = some slice :=
  Option.isSome_iff_exists.mp (isSome_decode?_extract first last)

namespace InOrder

variable {text : String} {start stop : Nat} {nodes : List Tree}

/-- Nodes that are `InOrder` start before they stop. -/
theorem le (order : InOrder text stop start nodes) : start ≤ stop := by
  induction order with
  | nil _ le => exact le
  | cons _ before _ le _ ih => omega

/-- Nodes that are `InOrder` start at an offset with `IsBoundary`. -/
theorem boundary (order : InOrder text stop start nodes) : IsBoundary text start := by
  cases order with
  | nil first _ => exact first
  | cons first _ _ _ _ => exact first

/-- If the nodes are `InOrder`, the gaps between them and the nodes themselves can be read, and
`weave` makes the whole text of them. The induction is on `InOrder`. -/
theorem exists_weave (last : IsBoundary text stop) (order : InOrder text stop start nodes) :
    ∃ gaps written, slices? (.ofText text) (gapsFrom start stop nodes) = some gaps ∧
      nodes.mapM (Source.ofText text).text? = some written ∧
      (Source.ofText text).slice? start stop = some (weave gaps written) := by
  induction order with
  | nil first le =>
      obtain ⟨gap, read⟩ := exists_slice first last
      refine ⟨[gap], [], ?_, rfl, by rw [read, weave_singleton]⟩
      rw [gapsFrom_nil, slices?_cons_eq_some_iff]
      exact ⟨gap, [], read, rfl, rfl⟩
  | @cons start node rest first before opens le more ih =>
      obtain ⟨gaps, written, readGaps, readWritten, whole⟩ := ih
      obtain ⟨gap, readGap⟩ := exists_slice first opens
      obtain ⟨own, readOwn⟩ := exists_slice opens more.boundary
      have readNode : (Source.ofText text).text? node = some own := readOwn
      refine ⟨gap :: gaps, own :: written, ?_, ?_, ?_⟩
      · rw [gapsFrom_cons, slices?_cons_eq_some_iff]
        exact ⟨gap, gaps, readGap, readGaps, rfl⟩
      · simp [readNode, readWritten]
      · -- The gap and the node behind it are one text, and so are these two and the rest.
        have head := Source.slice?_append before le readGap readOwn
        rw [weave_cons_cons]
        exact Source.slice?_append (by omega) more.le head whole

end InOrder

/-! ## Splicing -/

/-- The word of `renderInterpolation` is not `.literal`. -/
theorem origin_ne_literal_of_renderInterpolation {source : Source} {tree : Tree} {word : Word}
    (rendered : renderInterpolation source tree = some word) : word.origin ≠ .literal := by
  rw [renderInterpolation] at rendered
  split at rendered
  · obtain ⟨name, _, rfl⟩ := Option.map_eq_some_iff.mp rendered
    exact Origin.noConfusion
  · obtain ⟨text, _, rfl⟩ := Option.map_eq_some_iff.mp rendered
    exact Origin.noConfusion

/-- The `gaps` and the `words` in turn, as one word. -/
def weaveWords (gaps : List String) (words : List Word) : Word :=
  ⟨weave gaps (words.map (·.text)), originOf words⟩

/-- If the nodes are `InOrder`, `splice` puts their words in place of their spans and leaves the
gaps between them as they are. The induction is on `InOrder`. -/
theorem splice_eq {text : String} {tree : Tree} {start stop : Nat} {nodes : List Tree}
    (order : InOrder text stop start nodes) (startInside : tree.label.start ≤ start)
    (stopInside : stop ≤ tree.label.stop) {gaps : List String}
    (read : slices? (.ofText text) (gapsFrom start stop nodes) = some gaps) :
    splice (.ofText text) ((Source.ofText text).span tree) tree.label.start stop nodes start =
      (nodes.mapM (renderInterpolation (.ofText text))).map (weaveWords gaps) := by
  induction order generalizing gaps with
  | nil first le =>
      rw [gapsFrom_nil, slices?_cons_eq_some_iff] at read
      obtain ⟨gap, _, readGap, nothing, rfl⟩ := read
      cases nothing
      rw [splice_nil startInside le stopInside readGap]
      simp [weaveWords, originOf]
  | @cons start node rest first before opens le more ih =>
      rw [gapsFrom_cons, slices?_cons_eq_some_iff] at read
      obtain ⟨gap, others, readGap, readOthers, rfl⟩ := read
      have within : node.label.start ≤ tree.label.stop := by
        have := more.le
        omega
      -- The cut is clipped at the end of the string, which the gap does not reach.
      have between :
          between? ((Source.ofText text).span tree) tree.label.start start node.label.start =
          some gap := by
        rw [between?_span _ _ startInside (by omega), Nat.min_eq_left within]
        exact readGap
      have after := ih (by omega) readOthers
      rw [splice, between, after]
      cases here : renderInterpolation (.ofText text) node with
      | none => simp [here]
      | some word =>
          cases later : rest.mapM (renderInterpolation (.ofText text)) with
          | none => simp [here, later]
          | some words =>
              simp [here, later, weaveWords, Word.append, originOf, Origin.literal_merge,
                String.append_assoc]

/-! ## The word of a string -/

/-- The string `tree` stands in quotes of one byte, and its `interpolations` lie between them, one
after the other. All these spans start and end between characters of `text` (`IsBoundary`). Other
children of the string do not matter. -/
structure QuotedSpans (text : String) (tree : Tree) : Prop where
  /-- There are two quotes. -/
  long : tree.label.start + 2 ≤ tree.label.stop
  /-- The first quote has one byte. -/
  opening : IsBoundary text (tree.label.start + 1)
  /-- The last quote has one byte. -/
  closing : IsBoundary text (tree.label.stop - 1)
  /-- An interpolation lies between the quotes. -/
  inside : ∀ node ∈ interpolations tree, tree.label.start + 1 ≤ node.label.start ∧
    node.label.start ≤ node.label.stop ∧ node.label.stop ≤ tree.label.stop - 1
  /-- An interpolation starts and ends between characters. -/
  boundary : ∀ node ∈ interpolations tree,
    IsBoundary text node.label.start ∧ IsBoundary text node.label.stop
  /-- An interpolation starts only where those before it have ended. -/
  apart : (interpolations tree).Pairwise fun first second => first.label.stop ≤ second.label.start

/-- Nodes between two offsets that do not overlap and come one after the other are `InOrder`. -/
theorem inOrder_of_pairwise {text : String} {start stop : Nat} {nodes : List Tree}
    (first : IsBoundary text start) (le : start ≤ stop)
    (inside : ∀ node ∈ nodes, start ≤ node.label.start ∧ node.label.start ≤ node.label.stop ∧
      node.label.stop ≤ stop)
    (boundary : ∀ node ∈ nodes, IsBoundary text node.label.start ∧ IsBoundary text node.label.stop)
    (apart : nodes.Pairwise fun first second => first.label.stop ≤ second.label.start) :
    InOrder text stop start nodes := by
  induction nodes generalizing start with
  | nil => exact .nil first le
  | cons node rest ih =>
      obtain ⟨before, span, within⟩ := inside node List.mem_cons_self
      obtain ⟨opens, closes⟩ := boundary node List.mem_cons_self
      obtain ⟨behind, apart⟩ := List.pairwise_cons.mp apart
      refine .cons first before opens span (ih closes within ?_ ?_ apart)
      · intro other member
        obtain ⟨_, otherSpan, otherWithin⟩ := inside other (List.mem_cons_of_mem _ member)
        exact ⟨behind other member, otherSpan, otherWithin⟩
      · intro other member
        exact boundary other (List.mem_cons_of_mem _ member)

/-- From `QuotedSpans` follows that the interpolations of a string are `InOrder`. -/
theorem QuotedSpans.inOrder {text : String} {tree : Tree} (spans : QuotedSpans text tree) :
    InOrder text (tree.label.stop - 1) (tree.label.start + 1) (interpolations tree) := by
  have long := spans.long
  exact inOrder_of_pairwise spans.opening (by omega) spans.inside spans.boundary spans.apart

/-- The interpolations of a string are rendered as words of their own. -/
theorem mapM_renderWord_interpolations (source : Source) (tree : Tree) :
    (interpolations tree).mapM (renderWord source) =
      (interpolations tree).mapM (renderInterpolation source) := by
  refine mapM_congr fun node member => ?_
  exact renderWord_of_isInterpolation (List.mem_filter.mp member).2

/-- The origin of interpolations together tells whether there is one, and whether one is
`.unresolved`. -/
theorem originOf_interpolations {source : Source} {nodes : List Tree} {words : List Word}
    (rendered : nodes.mapM (renderInterpolation source) = some words) :
    (originOf words = .unresolved ↔ ∃ word ∈ words, word.origin = .unresolved) ∧
    (originOf words = .variable ↔ words ≠ [] ∧ ∀ word ∈ words, word.origin ≠ .unresolved) ∧
    (originOf words = .literal ↔ words = []) := by
  -- No interpolation is written out, so words that are all literal are none.
  have unwritten : ∀ word ∈ words, word.origin ≠ .literal := by
    intro word member
    rw [← filterMap_eq_of_mapM_eq_some rendered] at member
    obtain ⟨node, _, isWord⟩ := List.mem_filterMap.mp member
    exact origin_ne_literal_of_renderInterpolation isWord
  have literal : originOf words = .literal ↔ words = [] := by
    rw [originOf_eq_literal_iff]
    constructor
    · intro all
      rw [List.eq_nil_iff_forall_not_mem]
      exact fun word member => unwritten word member (all word member)
    · rintro rfl word member
      cases member
  refine ⟨originOf_eq_unresolved_iff, ?_, literal⟩
  rw [Origin.eq_variable_iff, Ne, literal, Ne, originOf_eq_unresolved_iff]
  push Not
  rfl

/-- The text of a string in double quotes whose interpolations are adjacent, with characters of two
bytes on both sides. -/
def greetingText : String :=
  "\"é$d$(x)/ü\""

/-- The tree of `greetingText`. -/
def greetingTree : Tree :=
  branch "string" 0 13 "" [
    branch "string_content" 1 3 "" [],
    branch "simple_expansion" 3 5 "" [branch "variable_name" 4 5 "" []],
    branch "command_substitution" 5 9 "" [],
    branch "string_content" 9 12 "" []]

/-- Rendering a string in double quotes by `renderQuoted` loses nothing.

(1) The text between the quotes is the `weave` of the `gaps` and of what is `written` for the
interpolations.

(2) If the interpolations are rendered as `words`, the string is rendered as the `weave` of the same
`gaps` and the texts of these `words`. Its origin is `.unresolved` exactly if that of an
interpolation is, and otherwise `.variable` exactly if there is an interpolation at all.

(3) If an interpolation cannot be rendered, the string cannot.

(4) If the spans of the tree fit the characters of the text, they all can be rendered.

(5) A string without interpolations is what stands between the quotes. -/
theorem renderQuoted_weaves {text : String} {tree : Tree} (spans : QuotedSpans text tree) :
    ∃ inner gaps written,
      (Source.ofText text).slice? (tree.label.start + 1) (tree.label.stop - 1) = some inner ∧
      slices? (.ofText text) (gapSpans tree) = some gaps ∧
      (interpolations tree).mapM (Source.ofText text).text? = some written ∧
      inner = weave gaps written ∧
      (∀ words, (interpolations tree).mapM (renderWord (.ofText text)) = some words →
        ∃ origin, renderQuoted (.ofText text) tree =
          some ⟨weave gaps (words.map (·.text)), origin⟩ ∧
          (origin = .unresolved ↔ ∃ word ∈ words, word.origin = .unresolved) ∧
          (origin = .variable ↔ words ≠ [] ∧ ∀ word ∈ words, word.origin ≠ .unresolved) ∧
          (origin = .literal ↔ words = [])) ∧
      ((interpolations tree).mapM (renderWord (.ofText text)) = none →
        renderQuoted (.ofText text) tree = none) ∧
      (tree.Fits text → ∃ words, (interpolations tree).mapM (renderWord (.ofText text)) =
        some words) ∧
      (interpolations tree = [] → renderQuoted (.ofText text) tree = some ⟨inner, .literal⟩) := by
  have long := spans.long
  obtain ⟨gaps, written, readGaps, readWritten, whole⟩ := spans.inOrder.exists_weave spans.closing
  -- The gaps can be read, so rendering is weaving in the words of the interpolations.
  have spliced : renderQuoted (.ofText text) tree =
      ((interpolations tree).mapM (renderWord (.ofText text))).map (weaveWords gaps) := by
    rw [renderQuoted_eq (by omega), mapM_renderWord_interpolations]
    exact splice_eq spans.inOrder (by omega) (by omega) readGaps
  refine ⟨weave gaps written, gaps, written, whole, readGaps, readWritten, rfl, ?_, ?_, ?_, ?_⟩
  · intro words rendered
    rw [spliced, rendered]
    rw [mapM_renderWord_interpolations] at rendered
    exact ⟨originOf words, rfl, originOf_interpolations rendered⟩
  · intro unreadable
    rw [spliced, unreadable, Option.map_none]
  · intro fits
    refine Option.isSome_iff_exists.mp (isSome_mapM fun node member =>
      isSome_renderWord (fits.below ?_))
    exact Tree.mem_children_of_mem_namedChildren (List.mem_filter.mp member).1
  · intro none
    rw [none] at readWritten spliced
    cases readWritten
    exact spliced

/-- In `greetingText`, adjacent interpolations leave an empty gap, and characters of two bytes stay
whole on both sides. -/
theorem renderQuoted_weaves_greeting :
    QuotedSpans greetingText greetingTree ∧
    slices? (.ofText greetingText) (gapSpans greetingTree) = some ["é", "", "/ü"] ∧
    renderQuoted (.ofText greetingText) greetingTree = some ⟨"é$\x7bd\x7d$(x)/ü", .unresolved⟩ := by
  have spans : QuotedSpans greetingText greetingTree :=
    ⟨by decide, by decide, by decide, by decide, by decide, by decide⟩
  have gapTexts :
      slices? (.ofText greetingText) (gapSpans greetingTree) = some ["é", "", "/ü"] := by
    decide
  have words : (interpolations greetingTree).mapM (renderWord (.ofText greetingText)) =
      some [Word.ofVariable "d", ⟨"$(x)", .unresolved⟩] := by
    decide
  obtain ⟨inner, gaps, written, _, readGaps, _, _, splices, _⟩ := renderQuoted_weaves spans
  cases readGaps.symm.trans gapTexts
  obtain ⟨origin, rendered, unresolved, _⟩ := splices _ words
  have isUnresolved : origin = .unresolved := unresolved.mpr ⟨⟨"$(x)", .unresolved⟩, by simp, rfl⟩
  rw [isUnresolved] at rendered
  exact ⟨spans, gapTexts, rendered⟩

end Shell

end Footgun
