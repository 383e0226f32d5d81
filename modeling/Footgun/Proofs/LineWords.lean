import Footgun.Text.Blank
import Mathlib.Data.List.Basic
import Mathlib.Data.List.TakeWhile

/-! # The words of a text

The words of a text are found from its end: a character joins the word that starts right after it.
They are said here without the search, as the runs of characters other than white space that cannot
be made longer. Main definitions:

* `Placed.shift` — a word of a text with some characters put in front of the text;
* `IsSolid` — a text is one word;
* `IsWordBetween` — a word stands between the two other parts of a text.

The main statements are `wordsFrom_append_blank`, that white space separates the words on its two
sides, and `mem_wordsFrom_iff`, that exactly the longest runs are words. -/

namespace Footgun.Text

/-! ## Places -/

/-- The same word in a text with `count` characters put in front. -/
def Placed.shift (count : Nat) (word : Placed) : Placed :=
  ⟨word.start + count, word.text⟩

/-- A word that is shifted by `count` starts `count` further on. -/
@[simp] theorem Placed.start_shift (count : Nat) (word : Placed) :
    (word.shift count).start = word.start + count := rfl

/-- A word that is shifted keeps its text. -/
@[simp] theorem Placed.text_shift (count : Nat) (word : Placed) :
    (word.shift count).text = word.text := rfl

/-- There are no words in the empty text. -/
@[simp] theorem wordsFrom_nil (place : Nat) : wordsFrom place [] = [] := rfl

/-- A character with `isBlank` belongs to no word. -/
theorem wordsFrom_cons_blank {c : Char} (blank : isBlank c) (place : Nat) (rest : List Char) :
    wordsFrom place (c :: rest) = wordsFrom (place + 1) rest := by
  rw [wordsFrom, if_pos blank]

/-- The words of a text that stands `count` further on are `shift`ed by `count`. -/
theorem wordsFrom_add (place count : Nat) (text : List Char) :
    wordsFrom (place + count) text = (wordsFrom place text).map (Placed.shift count) := by
  induction text generalizing place with
  | nil => rfl
  | cons c rest ih =>
      have later := ih (place + 1)
      rw [Nat.add_right_comm] at later
      simp only [wordsFrom]
      split
      · exact later
      · rw [later]
        cases wordsFrom (place + 1) rest with
        | nil => rfl
        | cons word words =>
            -- The character joins the first word in both texts, or in none.
            by_cases next : word.start = place + 1
            · have shifted : (word.shift count).start = place + count + 1 := by
                rw [Placed.start_shift, next, Nat.add_right_comm]
              simp only [List.map_cons, if_pos next, if_pos shifted]
              rfl
            · have shifted : ¬ (word.shift count).start = place + count + 1 := by
                rw [Placed.start_shift]
                omega
              simp only [List.map_cons, if_neg next, if_neg shifted]
              rfl

/-- The words of a text do not start before `place`. -/
theorem le_start_of_mem_wordsFrom {place : Nat} {text : List Char} {word : Placed}
    (member : word ∈ wordsFrom place text) : place ≤ word.start := by
  have fromZero := wordsFrom_add 0 place text
  rw [Nat.zero_add] at fromZero
  rw [fromZero, List.mem_map] at member
  obtain ⟨original, _, rfl⟩ := member
  exact Nat.le_add_left place original.start

/-! ## White space between words -/

/-- The words around a character with `isBlank` are those `before` it and those `after` it. -/
theorem wordsFrom_append_blank {blank : Char} (isGap : isBlank blank) (place : Nat)
    (before after : List Char) :
    wordsFrom place (before ++ blank :: after) =
      wordsFrom place before ++ wordsFrom (place + before.length + 1) after := by
  induction before generalizing place with
  | nil => exact wordsFrom_cons_blank isGap place after
  | cons c rest ih =>
      have later := ih (place + 1)
      have sum : place + 1 + rest.length + 1 = place + (c :: rest).length + 1 := by
        rw [List.length_cons]
        omega
      rw [sum] at later
      simp only [List.cons_append, wordsFrom, later]
      split
      · rfl
      · cases wordsFrom (place + 1) rest with
        | cons word words =>
            simp only [List.cons_append]
            split <;> rfl
        | nil =>
            -- No word is left before the white space, and the next one behind it is too far away.
            simp only [List.nil_append]
            cases behind : wordsFrom (place + (c :: rest).length + 1) after with
            | nil => rfl
            | cons word words =>
                have far : place + (c :: rest).length + 1 ≤ word.start :=
                  le_start_of_mem_wordsFrom (by rw [behind]; exact List.mem_cons_self)
                have apart : ¬ word.start = place + 1 := by
                  rw [List.length_cons] at far
                  omega
                simp only [if_neg apart, List.cons_append, List.nil_append]

/-- The text `word` is one word. -/
structure IsSolid (word : List Char) : Prop where
  /-- There is a character. -/
  ne_nil : word ≠ []
  /-- No character is white space. -/
  solid : ∀ c ∈ word, isBlank c = false

/-- A text that `IsSolid` is its only word. -/
theorem wordsFrom_of_isSolid {word : List Char} (isSolid : IsSolid word) (place : Nat) :
    wordsFrom place word = [⟨place, word⟩] := by
  obtain ⟨notEmpty, solid⟩ := isSolid
  induction word generalizing place with
  | nil => exact absurd rfl notEmpty
  | cons c rest ih =>
      have letter : ¬ isBlank c = true := by simp [solid c List.mem_cons_self]
      rw [wordsFrom, if_neg letter]
      by_cases last : rest = []
      · rw [last]
        rfl
      · rw [ih (place + 1) last fun other member => solid other (List.mem_cons_of_mem _ member)]
        exact if_pos rfl

/-! ## Longest runs -/

/-- The `word` stands between the two other parts of a text: both are empty or have white space next
to it. -/
structure IsWordBetween (before word after : List Char) : Prop extends IsSolid word where
  /-- No character comes right before the word. -/
  opens : before.getLast?.all isBlank
  /-- No character comes right behind the word. -/
  closes : after.head?.all isBlank

/-- If `word` has `IsSolid` and what comes `after` it is empty or starts with white space, it is the
first word of the text. -/
theorem wordsFrom_append {word after : List Char} (isSolid : IsSolid word)
    (closes : after.head?.all isBlank) (place : Nat) :
    wordsFrom place (word ++ after) = ⟨place, word⟩ :: wordsFrom (place + word.length) after := by
  cases after with
  | nil => rw [List.append_nil, wordsFrom_of_isSolid isSolid, wordsFrom_nil]
  | cons blank rest =>
      have isGap : isBlank blank := closes
      rw [wordsFrom_append_blank isGap, wordsFrom_of_isSolid isSolid, wordsFrom_cons_blank isGap]
      rfl

/-- What holds of `[]`, and is kept by white space and by words in front, holds of every text. This
is the recursion of `wordsFrom`. -/
theorem induction_on_words {motive : List Char → Prop} (nil : motive [])
    (blank : ∀ c rest, isBlank c → motive rest → motive (c :: rest))
    (word : ∀ word rest, IsSolid word → rest.head?.all isBlank → motive rest →
      motive (word ++ rest)) :
    ∀ text, motive text
  | [] => nil
  | c :: rest => by
      by_cases isGap : isBlank c
      · exact blank c rest isGap (induction_on_words nil blank word rest)
      · -- The first word goes up to the next white space.
        have split := List.takeWhile_append_dropWhile (p := (!isBlank ·)) (l := c :: rest)
        rw [← split]
        refine word _ _ ⟨?_, ?_⟩ ?_ (induction_on_words nil blank word _)
        · simp [isGap]
        · intro other member
          simpa using List.mem_takeWhile_imp member
        · cases behind : (c :: rest).dropWhile (!isBlank ·) with
          | nil => rfl
          | cons other others =>
              have stops := List.head?_dropWhile_not (!isBlank ·) (c :: rest)
              rw [behind] at stops
              simpa using stops
termination_by text => text.length
decreasing_by
  · exact Nat.lt_succ_self _
  · rw [List.dropWhile_cons_of_pos (by simp [isGap]), List.length_cons]
    exact Nat.lt_succ_of_le (List.dropWhile_sublist _).length_le

/-- A text that starts with a word does not start with white space. -/
theorem IsSolid.head?_append {word : List Char} (isSolid : IsSolid word) (after : List Char) :
    ¬ (word ++ after).head?.all isBlank := by
  cases word with
  | nil => exact absurd rfl isSolid.ne_nil
  | cons letter others =>
      have letterSolid := isSolid.solid letter List.mem_cons_self
      simp [letterSolid]

/-- A word has `IsWordBetween` what comes before it and what comes behind it. -/
theorem exists_between_of_mem_wordsFrom {place : Nat} {text : List Char} {word : Placed}
    (member : word ∈ wordsFrom place text) :
    ∃ before after, text = before ++ (word.text ++ after) ∧ word.start = place + before.length ∧
      IsWordBetween before word.text after := by
  induction text using induction_on_words generalizing place with
  | nil => cases member
  | blank c rest isGap ih =>
      rw [wordsFrom_cons_blank isGap] at member
      obtain ⟨before, after, split, start, between⟩ := ih member
      refine ⟨c :: before, after, by rw [split]; rfl, by rw [start, List.length_cons]; omega,
        between.toIsSolid, ?_, between.closes⟩
      cases before with
      | nil => exact isGap
      | cons other others =>
          rw [List.getLast?_cons_cons]
          exact between.opens
  | word first rest isSolid closes ih =>
      rw [wordsFrom_append isSolid closes, List.mem_cons] at member
      rcases member with rfl | later
      · exact ⟨[], rest, rfl, rfl, isSolid, rfl, closes⟩
      · obtain ⟨before, after, split, start, between⟩ := ih later
        have apart : before ≠ [] := by
          -- White space stands right behind the first word, so the other one cannot start there.
          rintro rfl
          rw [split] at closes
          exact between.head?_append after closes
        refine ⟨first ++ before, after, by rw [split, List.append_assoc],
          by rw [start, List.length_append]; omega, between.toIsSolid, ?_, between.closes⟩
        rw [List.getLast?_append_of_ne_nil _ apart]
        exact between.opens

/-- The members of `wordsFrom place text` are exactly the longest runs of characters other than
white space, each with the place at which it starts. -/
theorem mem_wordsFrom_iff {place : Nat} {text : List Char} {word : Placed} :
    word ∈ wordsFrom place text ↔
      ∃ before after, text = before ++ (word.text ++ after) ∧ word.start = place + before.length ∧
        IsWordBetween before word.text after := by
  refine ⟨exists_between_of_mem_wordsFrom, ?_⟩
  rintro ⟨before, after, rfl, start, between⟩
  have first := wordsFrom_append between.toIsSolid between.closes word.start
  rcases List.eq_nil_or_concat before with rfl | ⟨others, blank, rfl⟩
  · rw [List.nil_append, ← Nat.add_zero place, ← List.length_nil (α := Char), ← start, first]
    exact List.mem_cons_self
  · have isGap : isBlank blank := by simpa using between.opens
    have behind : place + others.length + 1 = word.start := by
      rw [start, List.concat_eq_append, List.length_append, List.length_singleton, Nat.add_assoc]
    rw [List.concat_eq_append, List.append_assoc, List.singleton_append,
      wordsFrom_append_blank isGap, behind, first]
    exact List.mem_append_right _ List.mem_cons_self

end Footgun.Text
