import Footgun.Config.Setting
import Footgun.Proofs.PathText

/-! # Items of a comma list

A comma list is written with white space around its items and with blank pieces between its commas,
as one likes, and is read back all the same. Main definitions:

* `IsGap` — a text of nothing but white space;
* `IsItem` — a text that can be an item: it is not empty, holds no comma and has no white space at
  its ends;
* `Spells` — the pieces between the commas spell a list of items.

The main statement is `commaList_reads_spelling`: reading gives items, and it gives exactly the
items that the pieces spell. -/

namespace Footgun.Text

/-! ## White space around a text -/

/-- A text of nothing but white space. -/
def IsGap (text : List Char) : Prop :=
  ∀ c ∈ text, isBlank c

/-- No white space stands in front of `text`. -/
def StartsSolid (text : List Char) : Prop :=
  ∀ c ∈ text.head?, isBlank c = false

/-- A text `IsGap` exactly if it is one backwards. -/
theorem isGap_reverse {text : List Char} : IsGap text.reverse ↔ IsGap text := by
  simp [IsGap]

/-- What `takeWhile isBlank` takes from the front of a text `IsGap`. -/
theorem isGap_takeWhile (text : List Char) : IsGap (text.takeWhile isBlank) := by
  intro c member
  exact List.all_eq_true.mp List.all_takeWhile c member

/-- What `dropWhile isBlank` leaves of a text has `StartsSolid`. -/
theorem startsSolid_dropWhile (text : List Char) : StartsSolid (text.dropWhile isBlank) := by
  intro c first
  have solid := List.head?_dropWhile_not isBlank text
  rw [Option.mem_def.mp first] at solid
  exact solid

/-- From `gap ++ text`, where `text` has `StartsSolid`, `dropWhile isBlank` drops `gap` and no
more. -/
theorem dropWhile_append_of_isGap {gap text : List Char} (isGap : IsGap gap)
    (solid : StartsSolid text) : (gap ++ text).dropWhile isBlank = text := by
  rw [List.dropWhile_append_of_pos isGap]
  cases text with
  | nil => rfl
  | cons c rest =>
      have first : isBlank c = false := solid c rfl
      rw [List.dropWhile_cons_of_neg (by simp [first])]

/-- Trimming takes a gap off each end: `text` is `trimEnd (trimStart text)` between two of them. -/
theorem exists_gaps_around_trim (text : List Char) :
    ∃ before after, IsGap before ∧ IsGap after ∧
      text = before ++ trimEnd (trimStart text) ++ after := by
  have rest : trimStart text =
      trimEnd (trimStart text) ++ ((trimStart text).reverse.takeWhile isBlank).reverse := by
    rw [trimEnd, ← List.reverse_append, List.takeWhile_append_dropWhile, List.reverse_reverse]
  refine ⟨text.takeWhile isBlank, ((trimStart text).reverse.takeWhile isBlank).reverse,
    isGap_takeWhile text, isGap_reverse.mpr (isGap_takeWhile _), ?_⟩
  rw [List.append_assoc, ← rest, trimStart, List.takeWhile_append_dropWhile]

/-- Trimming what `IsGap` leaves `""`. -/
theorem trim_of_isGap {gap : List Char} (isGap : IsGap gap) : trim (String.ofList gap) = "" := by
  have nothing : gap.dropWhile isBlank = [] := by
    have solid : StartsSolid [] := by simp [StartsSolid]
    have dropped := dropWhile_append_of_isGap isGap solid
    rwa [List.append_nil] at dropped
  rw [trim, String.toList_ofList, trimStart, nothing]
  rfl

/-! ## Items -/

/-- The text `item` can be an item of a comma list. -/
structure IsItem (item : String) : Prop where
  /-- It is not empty. -/
  ne_empty : item ≠ ""
  /-- It holds no comma. -/
  noComma : ',' ∉ item.toList
  /-- No white space stands in front of it. -/
  start : ∀ c ∈ item.toList.head?, isBlank c = false
  /-- No white space stands behind it. -/
  stop : ∀ c ∈ item.toList.getLast?, isBlank c = false

/-- Trimming an item with gaps `before` and `after` it gives back the item. -/
theorem IsItem.trim_eq {item : String} (isItem : IsItem item) {before after : List Char}
    (isBefore : IsGap before) (isAfter : IsGap after) :
    trim (String.ofList (before ++ item.toList ++ after)) = item := by
  -- The item is not empty, so what stands behind it does not come to the front.
  have front : StartsSolid (item.toList ++ after) := by
    intro c first
    have notEmpty : item.toList ≠ [] := by simp [isItem.ne_empty]
    rw [List.head?_append, Option.or_of_isSome (by simpa using notEmpty)] at first
    exact isItem.start c first
  have back : StartsSolid item.toList.reverse := by
    intro c last
    rw [List.head?_reverse] at last
    exact isItem.stop c last
  rw [trim, String.toList_ofList, trimStart, List.append_assoc,
    dropWhile_append_of_isGap isBefore front, trimEnd, List.reverse_append,
    dropWhile_append_of_isGap (isGap_reverse.mpr isAfter) back, List.reverse_reverse,
    String.ofList_toList]

/-- What `trim` leaves of a `piece` without a comma has `IsItem`, unless it is `""`. -/
theorem isItem_trim {piece : List Char} (noComma : ',' ∉ piece)
    (notEmpty : trim (String.ofList piece) ≠ "") : IsItem (trim (String.ofList piece)) := by
  have letters : (trim (String.ofList piece)).toList = trimEnd (trimStart piece) := by
    rw [trim, String.toList_ofList, String.toList_ofList]
  obtain ⟨before, after, _, _, split⟩ := exists_gaps_around_trim piece
  refine ⟨notEmpty, ?_, ?_, ?_⟩
  · rw [letters]
    intro member
    apply noComma
    rw [split]
    simp [member]
  · -- The first character that is left is the first one behind the gap in front.
    intro c first
    rw [letters] at first
    have back : trimEnd (trimStart piece) <+: trimStart piece := by
      rw [trimEnd, ← List.reverse_suffix, List.reverse_reverse]
      exact List.dropWhile_suffix isBlank
    obtain ⟨rest, whole⟩ := back
    have start : c ∈ (trimStart piece).head? := by
      rw [← whole, List.head?_append, Option.mem_def.mp first]
      rfl
    exact startsSolid_dropWhile piece c start
  · intro c last
    rw [letters, trimEnd, List.getLast?_reverse] at last
    exact startsSolid_dropWhile _ c last

/-- A text has `IsItem` exactly if it is not `""`, has no comma in it and `trim` does not change
it. -/
theorem isItem_iff {item : String} :
    IsItem item ↔ item ≠ "" ∧ ',' ∉ item.toList ∧ trim item = item := by
  constructor
  · intro isItem
    have nothing : IsGap [] := by simp [IsGap]
    have trimmed := isItem.trim_eq nothing nothing
    rw [List.nil_append, List.append_nil, String.ofList_toList] at trimmed
    exact ⟨isItem.ne_empty, isItem.noComma, trimmed⟩
  · rintro ⟨notEmpty, noComma, trimmed⟩
    have left := isItem_trim noComma (by rwa [String.ofList_toList, trimmed])
    rwa [String.ofList_toList, trimmed] at left

instance : DecidablePred IsItem := fun _ =>
  decidable_of_iff _ isItem_iff.symm

/-! ## Spellings -/

/-- In `Spells pieces items`, each of the `pieces` between the commas is blank or one of the
`items`, in order, with white space around it. -/
inductive Spells : List (List Char) → List String → Prop where
  /-- No pieces spell no items. -/
  | nil : Spells [] []
  /-- A blank piece spells nothing. -/
  | gap {piece : List Char} {pieces : List (List Char)} {items : List String} (isGap : IsGap piece)
      (rest : Spells pieces items) : Spells (piece :: pieces) items
  /-- An item with white space around it spells the item. -/
  | item {before after : List Char} {item : String} {pieces : List (List Char)}
      {items : List String} (isBefore : IsGap before) (isAfter : IsGap after)
      (rest : Spells pieces items) :
      Spells ((before ++ item.toList ++ after) :: pieces) (item :: items)

/-- The text of `pieces` with commas between them. -/
def commaText (pieces : List (List Char)) : String :=
  String.ofList ([','].intercalate pieces)

/-- The items of `pieces` between commas: what `trim` leaves of those that are not blank. -/
def itemsOf (pieces : List (List Char)) : List String :=
  (pieces.map fun piece => trim (String.ofList piece)).filter (· ≠ "")

/-- Reading `piece :: pieces` gives the trimmed `piece` in front, unless it is `""`. -/
theorem itemsOf_cons (piece : List Char) (pieces : List (List Char)) :
    itemsOf (piece :: pieces) =
      if trim (String.ofList piece) = "" then itemsOf pieces
      else trim (String.ofList piece) :: itemsOf pieces := by
  by_cases empty : trim (String.ofList piece) = "" <;> simp [itemsOf, empty]

/-- Every list of pieces has `Spells` with `itemsOf` it. -/
theorem spells_itemsOf (pieces : List (List Char)) : Spells pieces (itemsOf pieces) := by
  induction pieces with
  | nil => exact .nil
  | cons piece pieces ih =>
      -- A piece is what `trim` leaves of it, with white space before and after.
      obtain ⟨before, after, isBefore, isAfter, split⟩ := exists_gaps_around_trim piece
      have left : trimEnd (trimStart piece) = (trim (String.ofList piece)).toList := by
        rw [trim, String.toList_ofList, String.toList_ofList]
      rw [itemsOf_cons]
      rw [left] at split
      by_cases empty : trim (String.ofList piece) = ""
      · -- Nothing is left: the whole piece is a gap.
        rw [if_pos empty]
        refine .gap ?_ ih
        intro c member
        rw [split, empty] at member
        simp only [String.toList_empty, List.append_nil, List.mem_append] at member
        exact member.elim (isBefore c) (isAfter c)
      · rw [if_neg empty]
        have spelled : Spells ((before ++ (trim (String.ofList piece)).toList ++ after) :: pieces)
            (trim (String.ofList piece) :: itemsOf pieces) := .item isBefore isAfter ih
        rwa [← split] at spelled

namespace Spells

variable {pieces : List (List Char)} {items : List String}

/-- From `Spells pieces items`, where all `items` have `IsItem`, follows
`itemsOf pieces = items`. -/
theorem itemsOf_eq (spells : Spells pieces items) (areItems : ∀ item ∈ items, IsItem item) :
    itemsOf pieces = items := by
  induction spells with
  | nil => rfl
  | gap isGap _ ih => rw [itemsOf_cons, if_pos (trim_of_isGap isGap), ih areItems]
  | item isBefore isAfter _ ih =>
      have isItem := areItems _ List.mem_cons_self
      rw [itemsOf_cons, isItem.trim_eq isBefore isAfter, if_neg isItem.ne_empty,
        ih fun other later => areItems other (List.mem_cons_of_mem _ later)]

/-- In `Spells pieces items`, where all `items` have `IsItem`, no piece has a comma in it. -/
theorem noComma (spells : Spells pieces items) (areItems : ∀ item ∈ items, IsItem item) :
    ∀ piece ∈ pieces, ',' ∉ piece := by
  have gapFree : ∀ {gap : List Char}, IsGap gap → ',' ∉ gap := by
    intro gap isGap member
    exact absurd (isGap ',' member) (by decide)
  induction spells with
  | nil => simp
  | gap isGap _ ih => exact List.forall_mem_cons.mpr ⟨gapFree isGap, ih areItems⟩
  | item isBefore isAfter _ ih =>
      have isItem := areItems _ List.mem_cons_self
      refine List.forall_mem_cons.mpr ⟨?_, ih fun other later =>
        areItems other (List.mem_cons_of_mem _ later)⟩
      simp [gapFree isBefore, gapFree isAfter, isItem.noComma]

end Spells

/-! ## Reading -/

/-- The list `commaList text` is `itemsOf` the pieces that `splitOn ','` gives. -/
theorem commaList_eq_itemsOf (text : String) :
    commaList text = itemsOf (text.toList.splitOn ',') := rfl

/-- Pieces without commas are read from `commaText pieces` as `itemsOf pieces`. -/
theorem commaList_commaText {pieces : List (List Char)} (noComma : ∀ piece ∈ pieces, ',' ∉ piece) :
    commaList (commaText pieces) = itemsOf pieces := by
  rw [commaList_eq_itemsOf, commaText, String.toList_ofList]
  cases pieces with
  | nil => decide
  | cons piece rest => rw [List.splitOn_intercalate ',' noComma (List.cons_ne_nil _ _)]

/-- Every member of `commaList text` has `IsItem`. -/
theorem isItem_of_mem_commaList {text item : String} (member : item ∈ commaList text) :
    IsItem item := by
  rw [commaList_eq_itemsOf, itemsOf, List.mem_filter, decide_eq_true_eq] at member
  obtain ⟨isMapped, notEmpty⟩ := member
  obtain ⟨piece, isPiece, rfl⟩ := List.mem_map.mp isMapped
  exact isItem_trim (not_mem_of_mem_splitOn isPiece) notEmpty

/-- Reading a comma list.

(1) For every `text`, a setting that is a list is read from it by `coerce?` as the items
`commaList text`; all of them have `IsItem`; and `text` is the `commaText` of pieces that have
`Spells` with them.

(2) For all `items` with `IsItem` and all `pieces` with `Spells pieces items`, `commaText pieces` is
read as exactly `items`. -/
theorem commaList_reads_spelling :
    (∀ text : String,
      (∀ current, (Setting.items current).coerce? text =
        some (.items ((commaList text).map .str))) ∧
      (∀ item ∈ commaList text, IsItem item) ∧
      ∃ pieces, Spells pieces (commaList text) ∧ text = commaText pieces) ∧
    ∀ (items : List String) (pieces : List (List Char)), (∀ item ∈ items, IsItem item) →
      Spells pieces items → commaList (commaText pieces) = items := by
  constructor
  · intro text
    refine ⟨fun _ => rfl, fun item => isItem_of_mem_commaList, text.toList.splitOn ',', ?_, ?_⟩
    · exact spells_itemsOf _
    · rw [commaText, List.intercalate_splitOn, String.ofList_toList]
  · intro items pieces areItems spells
    rw [commaList_commaText (spells.noComma areItems), spells.itemsOf_eq areItems]

/-- Two suffixes with white space of several kinds around them, and a blank piece behind them. -/
theorem commaList_reads_spelling_suffixes :
    (∀ item ∈ [".sh", "Makefile"], IsItem item) ∧
    Spells [[' '] ++ ".sh".toList ++ [], ['\t'] ++ "Makefile".toList ++ ['\u3000'], []]
      [".sh", "Makefile"] ∧
    commaList " .sh,\tMakefile\u3000," = [".sh", "Makefile"] := by
  have areItems : ∀ item ∈ [".sh", "Makefile"], IsItem item := by
    intro item member
    rcases List.mem_cons.mp member with rfl | member
    · decide
    · rw [List.mem_singleton.mp member]
      decide
  have nothing : IsGap [] := by simp [IsGap]
  have one : ∀ c, isBlank c → IsGap [c] := by simp [IsGap]
  have spells : Spells
      [[' '] ++ ".sh".toList ++ [], ['\t'] ++ "Makefile".toList ++ ['\u3000'], []]
      [".sh", "Makefile"] :=
    .item (one _ (by decide)) nothing
      (.item (one _ (by decide)) (one _ (by decide)) (.gap nothing .nil))
  have written : commaText
      [[' '] ++ ".sh".toList ++ [], ['\t'] ++ "Makefile".toList ++ ['\u3000'], []] =
        " .sh,\tMakefile\u3000," := by decide
  have read := commaList_reads_spelling.2 _ _ areItems spells
  rw [written] at read
  exact ⟨areItems, spells, read⟩

end Footgun.Text
