import Footgun.Proofs.Decoding
import Footgun.Proofs.PathVerdict
import Footgun.Proofs.Samples

/-! # Words that start with a variable

A word such as `"$dir/"'*'` is rendered as `${dir}/*`, and where the words behind a flag are judged
this text is taken apart again. Main definitions:

* `Shell.pieces` — the pieces of a word, its concatenations taken apart;
* `Shell.WrittenOut` — a piece without variables, and its text without quotes;
* `Shell.StartsWith` — a piece that is a variable, or a string in double quotes that starts with
  one;
* `Shell.ExpandsFirst` — a word that is one variable and a text behind it;
* `expansionText` — how such a word is rendered.

The main statement is `Shell.expansion_resolved_in_one_step`. -/

namespace Footgun

/-! ## Words without gaps -/

/-- The origin `.literal` is neutral on the right of `Origin.merge`. -/
theorem Origin.merge_literal (origin : Origin) : origin.merge .literal = origin := by
  cases origin <;> rfl

/-- The origin `.literal` is neutral on the left of `Origin.merge`. -/
theorem Origin.literal_merge (origin : Origin) : Origin.literal.merge origin = origin := by
  cases origin <;> rfl

/-- Merging origins is associative. -/
theorem Origin.merge_assoc (first second third : Origin) :
    (first.merge second).merge third = first.merge (second.merge third) := by
  cases first <;> cases second <;> cases third <;> rfl

/-- The empty word `⟨"", .literal⟩` adds nothing on the right of `Word.append`. -/
theorem Word.append_empty (word : Word) : word.append ⟨"", .literal⟩ = word := by
  rw [Word.append, String.append_empty, Origin.merge_literal]

/-- The empty word `⟨"", .literal⟩` adds nothing on the left of `Word.append`. -/
theorem Word.empty_append (word : Word) : Word.append ⟨"", .literal⟩ word = word := by
  rw [Word.append, String.empty_append, Origin.literal_merge]

/-- Putting words one behind the other by `Word.append` is associative. -/
theorem Word.append_assoc (first second third : Word) :
    (first.append second).append third = first.append (second.append third) := by
  simp only [Word.append, String.append_assoc, Origin.merge_assoc]

/-- How the variable `name` and the text `rest` behind it are rendered. -/
def expansionText (name rest : String) : String :=
  "$\x7b" ++ name ++ "\x7d" ++ rest

namespace Shell

open Syntax (Tree Source)

/-! ## Pieces -/

mutual

/-- The pieces of a word: what is left if its concatenations are taken apart. -/
def pieces : Tree → List Tree
  | .node label children =>
    if label.kind = "concatenation" then piecesOf children else [.node label children]

/-- The pieces of words that are written without gaps. -/
def piecesOf : List Tree → List Tree
  | [] => []
  | part :: rest => pieces part ++ piecesOf rest

end

/-- Rendering `parts ++ more` is rendering `parts` and then `more`, and appending the words. -/
theorem renderParts_append (source : Source) (parts more : List Tree) :
    renderParts source (parts ++ more) = (renderParts source parts).bind fun first =>
      (renderParts source more).map first.append := by
  induction parts with
  | nil =>
      have same : Word.append ⟨"", .literal⟩ = id := funext Word.empty_append
      rw [List.nil_append, renderParts, Option.bind_some, same, Option.map_id_apply]
  | cons part rest ih =>
      simp only [List.cons_append, renderParts, ih, Option.bind_eq_bind, Option.bind_assoc,
        Option.pure_def, Option.bind_some]
      congr 1
      funext first
      congr 1
      funext others
      -- Appending is associative, so the first word may be put in front at the end.
      have same : (first.append others).append = first.append ∘ others.append :=
        funext (Word.append_assoc first others)
      rw [same, ← Option.map_map]
      exact Option.map_eq_bind.symm

/-- Rendering `[part]` is `renderWord source part`. -/
theorem renderParts_singleton (source : Source) (part : Tree) :
    renderParts source [part] = renderWord source part := by
  simp [renderParts, Word.append_empty]

/-- Rendering a word is `renderParts` of its `pieces`. -/
theorem renderWord_eq_renderParts (source : Source) (tree : Tree) :
    renderWord source tree = renderParts source (pieces tree) := by
  induction tree using Tree.induction_on_children with
  | step label children ih =>
      rw [pieces]
      by_cases joined : label.kind = "concatenation"
      · -- The parts of a concatenation are rendered in turn, each of them by its own pieces.
        have parts : renderParts source children = renderParts source (piecesOf children) := by
          clear joined
          induction children with
          | nil => rw [piecesOf]
          | cons part rest others =>
              rw [piecesOf, renderParts_append, ← ih part List.mem_cons_self,
                ← others fun child member => ih child (List.mem_cons_of_mem _ member), renderParts]
              congr 1
              funext first
              exact Option.map_eq_bind.symm
        rw [if_pos joined, ← parts, renderWord]
        simp [joined, isInterpolation, isExpansion, isSubstitution]
      · rw [if_neg joined, renderParts_singleton]

/-! ## Words by their pieces -/

/-- The interpolations of a string in double quotes. -/
def interpolations (tree : Tree) : List Tree :=
  tree.namedChildren.filter (isInterpolation ·.kind)

/-- Whether nodes of a kind are neither quoted nor put together nor replaced when the script
runs. -/
def isPlain (kind : String) : Bool :=
  !(["raw_string", "ansi_c_string", "string", "concatenation"].contains kind) &&
    !isInterpolation kind

/-- The `piece` holds no variable, and this is its text without quotes. -/
inductive WrittenOut (source : Source) (piece : Tree) : String → Prop
  /-- The piece has no quotes. -/
  | plain {text : String} (kind : isPlain piece.kind) (read : source.text? piece = some text) :
    WrittenOut source piece text
  /-- The piece stands in single quotes. -/
  | single {text : String} (kind : piece.kind = "raw_string")
    (read : source.text? piece = some ("'" ++ text ++ "'")) : WrittenOut source piece text
  /-- The piece stands in single quotes with a dollar sign before them. -/
  | dollar {text : String} (kind : piece.kind = "ansi_c_string")
    (read : source.text? piece = some ("$'" ++ text ++ "'")) : WrittenOut source piece text
  /-- The piece stands in double quotes. -/
  | double {text : String} (kind : piece.kind = "string") (none : interpolations piece = [])
    (long : piece.label.start + 2 ≤ piece.label.stop)
    (read : Text.decode? (source.bytes.extract (piece.label.start + 1) (piece.label.stop - 1)) =
      some text) : WrittenOut source piece text

/-- The `node` is the expansion of the variable `name`. -/
structure Expands (source : Source) (node : Tree) (name : String) : Prop where
  /-- The node is an expansion, with or without braces. -/
  kind : isExpansion node.kind
  /-- The node that names the variable has this text. -/
  read : (variableOf? node).bind source.text? = some name

/-- The `piece` starts with the variable `name`, and this is the text behind it. -/
inductive StartsWith (source : Source) (piece : Tree) (name : String) : String → Prop
  /-- The piece is the variable. -/
  | bare (expands : Expands source piece name) : StartsWith source piece name ""
  /-- The piece is a string in double quotes, with the variable right behind the first quote and no
  other interpolation. -/
  | quoted {node : Tree} {rest : String} (kind : piece.kind = "string")
    (only : interpolations piece = [node]) (expands : Expands source node name)
    (opens : node.label.start = piece.label.start + 1) (le : node.label.start ≤ node.label.stop)
    (inside : node.label.stop + 1 ≤ piece.label.stop)
    (read : Text.decode? (source.bytes.extract node.label.stop (piece.label.stop - 1)) =
      some rest) :
    StartsWith source piece name rest

/-- A word is the variable `name` and a text behind it: one of its `pieces` starts with the variable
(`StartsWith`), those before that one are empty, and those behind it are `WrittenOut`. -/
inductive ExpandsFirst (source : Source) (tree : Tree) (name : String) : String → Prop
  /-- The pieces of such a word. -/
  | intro {before after : List Tree} {piece : Tree} {first : String} {gaps texts : List String}
    (split : pieces tree = before ++ piece :: after)
    (leading : List.Forall₂ (WrittenOut source) before gaps) (empty : String.join gaps = "")
    (starts : StartsWith source piece name first)
    (written : List.Forall₂ (WrittenOut source) after texts) :
    ExpandsFirst source tree name (first ++ String.join texts)

variable {source : Source} {tree : Tree} {name text : String}

/-- Between an offset and itself there is the text `""`. -/
theorem decode?_extract_self (bytes : ByteArray) (offset : Nat) :
    Text.decode? (bytes.extract offset offset) = some "" := by
  rw [Text.decode?_eq_some_iff]
  simp

/-- From `opening ++ text ++ closing`, `unquote` takes off both ends and leaves `text`. -/
theorem unquote_append {leading : Nat} {opening closing : String} (first : opening.length = leading)
    (last : closing.length = 1) (text : String) :
    unquote leading (opening ++ text ++ closing) = text := by
  obtain ⟨c, closes⟩ := List.length_eq_one_iff.mp last
  have drops : (opening.toList ++ (text.toList ++ [c])).drop leading = text.toList ++ [c] :=
    List.drop_left' first
  rw [unquote, String.append_assoc, String.toList_append, String.toList_append, closes, drops,
    List.dropLast_concat, String.ofList_toList]

/-- A node with `Expands source tree name` is rendered as `Word.ofVariable name`. -/
theorem Expands.renderInterpolation_eq (expands : Expands source tree name) :
    renderInterpolation source tree = some (Word.ofVariable name) := by
  obtain ⟨node, found, read⟩ := Option.bind_eq_some_iff.mp expands.read
  simp [renderInterpolation, expands.kind, found, read]

/-- Without interpolations left, `splice` gives the `text` from `place` to `stop`, as a literal. -/
theorem splice_nil {place stop : Nat} (placeInside : tree.label.start ≤ place) (le : place ≤ stop)
    (stopInside : stop ≤ tree.label.stop)
    (read : Text.decode? (source.bytes.extract place stop) = some text) :
    splice source (source.span tree) tree.label.start stop [] place = some ⟨text, .literal⟩ := by
  rw [splice]
  by_cases more : (place : Int) < stop
  · rw [if_pos more, between?_span source tree placeInside (by omega),
      Nat.min_eq_left stopInside, read, Option.map_some]
  · have none : place = stop := by omega
    rw [none, decode?_extract_self, Option.some_inj] at read
    rw [if_neg more, read]

/-- The offsets of `renderQuoted` counted from the start of the source: it is `splice` over the
`interpolations` from behind the first quote up to the last one. -/
theorem renderQuoted_eq (quotes : 1 ≤ tree.label.stop) :
    renderQuoted source tree =
      splice source (source.span tree) tree.label.start (tree.label.stop - 1 : Nat)
        (interpolations tree) (tree.label.start + 1 : Nat) := by
  have stop : (tree.label.stop : Int) - 1 = ((tree.label.stop - 1 : Nat) : Int) := by omega
  rw [renderQuoted, stop]
  rfl

/-- A string in double quotes that starts with its only interpolation, a variable `name`, is
rendered as `expansionText name text`, where `text` stands between the variable and the last
quote. -/
theorem renderQuoted_of_only {node : Tree} (only : interpolations tree = [node])
    (expands : Expands source node name) (opens : node.label.start = tree.label.start + 1)
    (le : node.label.start ≤ node.label.stop) (inside : node.label.stop + 1 ≤ tree.label.stop)
    (read : Text.decode? (source.bytes.extract node.label.stop (tree.label.stop - 1)) = some text) :
    renderQuoted source tree = some ⟨expansionText name text, .variable⟩ := by
  -- Nothing stands between the first quote and the variable.
  have before : between? (source.span tree) tree.label.start node.label.start node.label.start =
      some "" := by
    rw [between?_span source tree (by omega) (by omega), Nat.min_eq_left (by omega),
      decode?_extract_self]
  have after : splice source (source.span tree) tree.label.start (tree.label.stop - 1 : Nat) []
      node.label.stop = some ⟨text, .literal⟩ :=
    splice_nil (by omega) (by omega) (by omega) read
  rw [renderQuoted_eq (by omega), only, ← opens, splice, before,
    expands.renderInterpolation_eq, after]
  simp [Word.append, Word.ofVariable, expansionText, Origin.merge]

/-- A node of kind `"string"` is rendered by `renderQuoted`. -/
theorem renderWord_of_string (kind : tree.kind = "string") :
    renderWord source tree = renderQuoted source tree := by
  obtain ⟨label, children⟩ := tree
  replace kind : label.kind = "string" := kind
  rw [renderWord, if_neg (by simp [kind]), if_neg (by simp [kind]), if_pos kind]

/-- A node whose kind `isInterpolation` is rendered by `renderInterpolation`. -/
theorem renderWord_of_isInterpolation (kind : isInterpolation tree.kind) :
    renderWord source tree = renderInterpolation source tree := by
  obtain ⟨label, children⟩ := tree
  replace kind : isInterpolation label.kind = true := kind
  have other {quotes : String} (isQuotes : isInterpolation quotes = false) :
      label.kind ≠ quotes := by
    intro same
    rw [same, isQuotes] at kind
    cases kind
  rw [renderWord, if_neg (other (by decide)), if_neg (other (by decide)),
    if_neg (other (by decide)), if_pos kind]

/-- A piece with `WrittenOut source tree text` is rendered as the literal `text`. -/
theorem WrittenOut.renderWord_eq (written : WrittenOut source tree text) :
    renderWord source tree = some ⟨text, .literal⟩ := by
  cases written with
  | double kind none long read =>
      rw [renderWord_of_string kind, renderQuoted_eq (by omega), none]
      exact splice_nil (by omega) (by omega) (by omega) read
  | plain kind read =>
      obtain ⟨label, children⟩ := tree
      replace kind : isPlain label.kind = true := kind
      -- The kind is none of those for which the rendering has a branch of its own.
      simp only [isPlain, List.contains_cons, List.contains_nil, Bool.or_false, Bool.and_eq_true,
        Bool.not_eq_true', Bool.or_eq_false_iff, beq_eq_false_iff_ne] at kind
      obtain ⟨⟨raw, ansi, string, joined⟩, fixed⟩ := kind
      simp [renderWord, raw, ansi, string, joined, fixed, read]
  | single kind read =>
      obtain ⟨label, children⟩ := tree
      replace kind : label.kind = "raw_string" := kind
      have opening : "'".length = 1 := rfl
      rw [renderWord, if_pos kind, read, Option.map_some, unquote_append opening rfl]
  | dollar kind read =>
      obtain ⟨label, children⟩ := tree
      replace kind : label.kind = "ansi_c_string" := kind
      have opening : "$'".length = 2 := rfl
      rw [renderWord, if_neg (by simp [kind]), if_pos kind, read, Option.map_some,
        unquote_append opening rfl]

/-- A piece with `StartsWith source tree name text` is rendered as `expansionText name text`. -/
theorem StartsWith.renderWord_eq (starts : StartsWith source tree name text) :
    renderWord source tree = some ⟨expansionText name text, .variable⟩ := by
  cases starts with
  | bare expands =>
      have kind : isInterpolation tree.kind := by rw [isInterpolation, expands.kind, Bool.true_or]
      rw [renderWord_of_isInterpolation kind, expands.renderInterpolation_eq]
      simp [Word.ofVariable, expansionText]
  | quoted kind only expands opens le inside read =>
      rw [renderWord_of_string kind]
      exact renderQuoted_of_only only expands opens le inside read

/-- Pieces that are `WrittenOut` as `texts` are rendered as the literal `String.join texts`. -/
theorem renderParts_of_written {parts : List Tree} {texts : List String}
    (written : List.Forall₂ (WrittenOut source) parts texts) :
    renderParts source parts = some ⟨String.join texts, .literal⟩ := by
  induction written with
  | nil => rw [renderParts, String.join_nil]
  | cons first _ ih =>
      simp [renderParts, first.renderWord_eq, ih, Word.append, Origin.merge, String.join_cons]

/-- A word with `ExpandsFirst source tree name text` is rendered as `expansionText name text`,
however it is quoted and put together. -/
theorem ExpandsFirst.renderWord_eq (expands : ExpandsFirst source tree name text) :
    renderWord source tree = some ⟨expansionText name text, .variable⟩ := by
  obtain ⟨split, leading, empty, starts, written⟩ := expands
  rw [renderWord_eq_renderParts, split, renderParts_append, renderParts_of_written leading, empty,
    renderParts, starts.renderWord_eq, renderParts_of_written written]
  simp [Word.append, Origin.merge, expansionText, String.append_assoc]

end Shell

/-! ## Taking the text apart -/

namespace Text

/-- A text without the white space at its end. -/
def trimTail (text : String) : String :=
  String.ofList (trimEnd text.toList)

/-- White space that `trimEnd` takes off stands behind the last solid character `c`. -/
theorem trimEnd_append_cons {c : Char} (solid : isBlank c = false) (before rest : List Char) :
    trimEnd (before ++ c :: rest) = before ++ c :: trimEnd rest := by
  rw [trimEnd, trimEnd, List.reverse_append, List.reverse_cons, List.append_assoc,
    List.dropWhile_append]
  split
  · rename_i blank
    simp [List.isEmpty_iff.mp blank, solid]
  · simp

end Text

variable {name : String}

/-- The characters of `expansionText name rest`: a dollar, `name` in braces, and `rest`. -/
theorem toList_expansionText (name rest : String) :
    (expansionText name rest).toList = '$' :: '\x7b' :: (name.toList ++ '\x7d' :: rest.toList) := by
  simp [expansionText]

/-- Trimming `expansionText name rest` trims the end of `rest` only. -/
theorem trim_expansionText (name rest : String) :
    Text.trim (expansionText name rest) = expansionText name (Text.trimTail rest) := by
  have dollar : Text.isBlank '$' = false := by decide
  have brace : Text.isBlank '\x7d' = false := by decide
  apply String.toList_injective
  rw [Text.trim, String.toList_ofList, toList_expansionText, toList_expansionText, Text.trimStart,
    List.dropWhile_cons_of_neg (by simp [dollar]), ← List.cons_append, ← List.cons_append,
    Text.trimEnd_append_cons brace, Text.trimTail, String.toList_ofList]
  rfl

/-- The name that `splitVariable` reads off `expansionText name rest` ends at the first closing
brace, so it is `name`, with `rest` behind it. -/
theorem splitVariable_expansionText (closed : '\x7d' ∉ name.toList) (rest : String) :
    splitVariable (expansionText name rest).toList = (name.toList, rest.toList) := by
  have inName : ∀ c ∈ name.toList, decide (c ≠ '\x7d') = true := by
    intro c member
    exact decide_eq_true fun same => closed (same ▸ member)
  have split : splitAtBracket? '\x7d' (name.toList ++ '\x7d' :: rest.toList) =
      some (name.toList, rest.toList) := by
    rw [splitAtBracket?, List.dropWhile_append_of_pos inName, List.takeWhile_append_of_pos inName]
    simp
  rw [toList_expansionText, splitVariable]
  simp [split]

/-- The variable that `variableOf` reads off `expansionText name rest` is `name`. -/
theorem variableOf_expansionText (closed : '\x7d' ∉ name.toList) (rest : String) :
    variableOf (expansionText name rest) = name := by
  rw [variableOf, trim_expansionText, splitVariable_expansionText closed, String.ofList_toList]

/-- The text that `remainderOf` reads off `expansionText name rest` is `rest` without blanks at its
end. -/
theorem remainderOf_expansionText (closed : '\x7d' ∉ name.toList) (rest : String) :
    remainderOf (expansionText name rest) = Text.trimTail rest := by
  rw [remainderOf, trim_expansionText, splitVariable_expansionText closed, String.ofList_toList]

/-- The text `expansionText name rest` has an expansion in it. -/
theorem holdsExpansion_expansionText (name rest : String) :
    HoldsExpansion (expansionText name rest) := by
  rw [HoldsExpansion, trim_expansionText, toList_expansionText]
  exact .inr ⟨[], _, rfl⟩

/-- The verdict of `classifyPaths` on words that start with `expansionText name rest`: a hazard
exactly if the value of `name` in `table` is in `unsafePaths`, alone or with `rest` behind it, or if
`table` has no `name` and `rest` is in `unsafePaths`. -/
theorem isSome_classifyPaths_expansionText (closed : '\x7d' ∉ name.toList) (rest : String)
    (table : Bindings) (unsafePaths later : List String) :
    (classifyPaths table unsafePaths (expansionText name rest :: later)).isSome ↔
      (∃ value, table.get? name = some value ∧
        (Text.trim value ∈ unsafePaths ∨ Text.trim value ++ Text.trimTail rest ∈ unsafePaths)) ∨
      (table.get? name = none ∧ Text.trimTail rest ∈ unsafePaths) := by
  have expansion : hasExpansion (Text.trim (expansionText name rest)).toList :=
    (carriesExpansion_iff (expansionText name rest)).mpr (holdsExpansion_expansionText name rest)
  have names := variableOf_expansionText closed rest
  rw [classifyPaths, if_pos expansion]
  cases value : table.get? name with
  | none =>
      rw [classifyExpansion_of_unknown (by rw [names, value]), remainderOf_expansionText closed]
      simp
  | some text =>
      rw [classifyExpansion_of_known (by rw [names, value]), remainderOf_expansionText closed]
      by_cases alone : Text.trim text ∈ unsafePaths <;> simp [alone]

namespace Shell

open Syntax (Tree Source)
open Scan (branch)

/-- The source of a word for all files of a directory, one half of it in double quotes and one in
single. -/
def clearingSource : Source :=
  .ofText "\"$d/\"'* '"

/-- The half of the word in double quotes. -/
def clearingHead : Tree :=
  branch "string" 0 5 "" [branch "simple_expansion" 1 3 "" [branch "variable_name" 2 3 "" []]]

/-- The half of the word in single quotes. -/
def clearingTail : Tree :=
  branch "raw_string" 5 9 "" []

/-- The tree of the word in `clearingSource`. -/
def clearingTree : Tree :=
  branch "concatenation" 0 9 "" [clearingHead, clearingTail]

/-- A word that is one variable `name` with the text `rest` behind it is resolved in one step.

(1) From `ExpandsFirst source tree name rest`, that is however the word is quoted and put together,
follows that `renderWord` gives `expansionText name rest`.

(2) If `renderWord` gives a word with that text, `classifyPaths` of it and of any words behind it is
a hazard exactly if `table.get? name` is a value that is in `unsafePaths`, alone or with `rest`
behind it, or is `none` while `rest` is in `unsafePaths`. White space around the value (`Text.trim`)
and at the end of the text (`Text.trimTail`) does not count.

(3) `splitVariable` gives back `name` and `rest`, whatever characters `rest` has. -/
theorem expansion_resolved_in_one_step (source : Source) (tree : Tree) (name rest : String)
    (closed : '\x7d' ∉ name.toList) :
    (ExpandsFirst source tree name rest →
      renderWord source tree = some ⟨expansionText name rest, .variable⟩) ∧
    (∀ word, renderWord source tree = some word → word.text = expansionText name rest →
      ∀ (table : Bindings) (unsafePaths later : List String),
        (classifyPaths table unsafePaths (word.text :: later)).isSome ↔
          (∃ value, table.get? name = some value ∧
            (Text.trim value ∈ unsafePaths ∨ Text.trim value ++ Text.trimTail rest ∈ unsafePaths)) ∨
          (table.get? name = none ∧ Text.trimTail rest ∈ unsafePaths)) ∧
    splitVariable (expansionText name rest).toList = (name.toList, rest.toList) := by
  refine ⟨ExpandsFirst.renderWord_eq, ?_, splitVariable_expansionText closed rest⟩
  intro word _ same
  rw [same]
  exact isSome_classifyPaths_expansionText closed rest

/-- The word `"$d"'/* '`, all files of a directory, is a hazard if `d` is blank or unknown, and none
if `d` is `./x`. -/
theorem expansion_resolved_in_one_step_clearing :
    ExpandsFirst clearingSource clearingTree "d" "/* " ∧
    renderWord clearingSource clearingTree = some ⟨"$\x7bd\x7d/* ", .variable⟩ ∧
    (classifyPaths ⟨[("d", " ")]⟩ ["/*"] ["$\x7bd\x7d/* "]).isSome ∧
    (classifyPaths ⟨[]⟩ ["/*"] ["$\x7bd\x7d/* "]).isSome ∧
    ¬ (classifyPaths ⟨[("d", "./x")]⟩ ["/*"] ["$\x7bd\x7d/* "]).isSome := by
  obtain ⟨renders, verdict, _⟩ :=
    expansion_resolved_in_one_step clearingSource clearingTree "d" "/* " (by decide)
  -- The word has two pieces: a string that starts with the expansion, and a raw string.
  have split : pieces clearingTree = [] ++ clearingHead :: [clearingTail] := by
    simp [pieces, piecesOf, clearingTree, clearingHead, clearingTail, branch]
  have expands :
      Expands clearingSource (branch "simple_expansion" 1 3 "" [branch "variable_name" 2 3 "" []])
      "d" := by
    refine ⟨rfl, ?_⟩
    show clearingSource.text? (branch "variable_name" 2 3 "" []) = some "d"
    exact Text.decode?_eq_some_iff.mpr (by decide)
  have starts : StartsWith clearingSource clearingHead "d" "/" :=
    .quoted rfl rfl expands rfl (by decide) (by decide) (Text.decode?_eq_some_iff.mpr (by decide))
  have written : WrittenOut clearingSource clearingTail "* " :=
    .single rfl (Text.decode?_eq_some_iff.mpr (by decide))
  have first : ExpandsFirst clearingSource clearingTree "d" "/* " :=
    .intro split .nil rfl starts (.cons written .nil)
  have rendered := renders first
  have judged := verdict _ rendered rfl
  have tail : Text.trimTail "/* " = "/*" := by decide
  rw [tail] at judged
  -- A blank value leaves `/*`, so does an unknown one, and `./x` does not.
  refine ⟨first, rendered, (judged _ _ _).mpr ?_, (judged _ _ _).mpr ?_, mt (judged _ _ _).mp ?_⟩
  · exact .inl ⟨" ", rfl, .inr (by decide)⟩
  · exact .inr ⟨rfl, by decide⟩
  · rintro (⟨value, known, isUnsafe⟩ | ⟨unknown, _⟩)
    · cases known
      revert isUnsafe
      decide
    · cases unknown

end Shell

end Footgun
