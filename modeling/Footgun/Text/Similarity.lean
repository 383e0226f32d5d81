/-! # Similar texts

How alike two texts are is measured by their matching blocks: the longest block that both have in
common, and then the blocks to the left and to the right of it, in the same way.

* `longestBlock` — the longest common block of two texts;
* `matched` — the number of characters in matching blocks;
* `suggestions` — the names that are much like a word. -/

namespace Footgun.Text

/-! ## Blocks -/

/-- A stretch of characters that two texts have in common. -/
structure Block where
  /-- Where it starts in the first text. -/
  first : Nat
  /-- Where it starts in the second text. -/
  second : Nat
  /-- How many characters it has. -/
  size : Nat
  deriving DecidableEq, Repr

/-- The number of characters with which two texts start alike. -/
def commonStart : List Char → List Char → Nat
  | c :: first, d :: second => if c = d then commonStart first second + 1 else 0
  | _, _ => 0

/-- Two texts start alike at most as far as the first one goes. -/
theorem commonStart_le_length (first second : List Char) :
    commonStart first second ≤ first.length := by
  fun_induction commonStart first second with
  | case1 c first second ih => exact Nat.succ_le_succ ih
  | case2 => exact Nat.zero_le _
  | case3 => exact Nat.zero_le _

/-- The better of a block and the blocks at one place of the first text: the larger one, and the
earlier one of two that are equally large. -/
def bestAt (place : Nat) (first : List Char) : Nat → List Char → Block → Block
  | _, [], best => best
  | index, c :: second, best =>
    let size := commonStart first (c :: second)
    bestAt place first (index + 1) second (if best.size < size then ⟨place, index, size⟩ else best)

/-- The best of a block and all blocks from a place of the first text on. -/
def bestFrom (second : List Char) : Nat → List Char → Block → Block
  | _, [], best => best
  | place, c :: first, best =>
      bestFrom second (place + 1) first (bestAt place (c :: first) 0 second best)

/-- The longest common block of two texts: of those that are equally long the first one in the first
text, and the first one in the second text of these. -/
def longestBlock (first second : List Char) : Block :=
  bestFrom second 0 first ⟨0, 0, 0⟩

/-- The best block at a place ends within the first text. -/
theorem bestAt_first_add_size_le {place bound : Nat} {first : List Char}
    (hplace : place + first.length ≤ bound) (index : Nat) (second : List Char) (best : Block)
    (hbest : best.first + best.size ≤ bound) :
    (bestAt place first index second best).first + (bestAt place first index second best).size ≤
      bound := by
  induction second generalizing index best with
  | nil => exact hbest
  | cons c second ih =>
    refine ih (index + 1) _ ?_
    have := commonStart_le_length first (c :: second)
    split
    · show place + commonStart first (c :: second) ≤ bound
      omega
    · exact hbest

/-- The best block from a place on ends within the first text. -/
theorem bestFrom_first_add_size_le {bound : Nat} (second : List Char) (place : Nat)
    (first : List Char) (best : Block) (hplace : place + first.length ≤ bound)
    (hbest : best.first + best.size ≤ bound) :
    (bestFrom second place first best).first + (bestFrom second place first best).size ≤ bound := by
  induction first generalizing place best with
  | nil => exact hbest
  | cons c first ih =>
    refine ih (place + 1) _ ?_ (bestAt_first_add_size_le hplace 0 second best hbest)
    simp only [List.length_cons] at hplace
    omega

/-- The longest common block ends within the first text. -/
theorem longestBlock_first_add_size_le (first second : List Char) :
    (longestBlock first second).first + (longestBlock first second).size ≤ first.length :=
  bestFrom_first_add_size_le second 0 first ⟨0, 0, 0⟩ (by omega) (Nat.zero_le _)

/-! ## Measure -/

/-- The number of characters in the matching blocks of two texts. -/
def matched (first second : List Char) : Nat :=
  let block := longestBlock first second
  if _h : block.size = 0 then 0
  else
    matched (first.take block.first) (second.take block.second) + block.size +
      matched (first.drop (block.first + block.size)) (second.drop (block.second + block.size))
termination_by first.length
decreasing_by
  all_goals
    have hend := longestBlock_first_add_size_le first second
    have hsize : (longestBlock first second).size ≠ 0 := _h
    simp only [List.length_take, List.length_drop]
    omega

/-- How alike two texts are, as a fraction. -/
structure Likeness where
  /-- Twice the number of characters in matching blocks. -/
  numerator : Nat
  /-- The number of characters of both texts. -/
  denominator : Nat
  deriving DecidableEq, Repr

namespace Likeness

/-- How alike two texts are. -/
def of (first second : List Char) : Likeness :=
  ⟨2 * matched first second, first.length + second.length⟩

/-- Whether two texts are alike by three fifths or more. -/
def isClose (likeness : Likeness) : Bool :=
  3 * likeness.denominator ≤ 5 * likeness.numerator

/-- Whether a likeness is more than another. -/
def exceeds (first second : Likeness) : Bool :=
  second.numerator * first.denominator < first.numerator * second.denominator

end Likeness

/-! ## Suggestions -/

/-- The order of candidates: the more alike ones first, and of two that are equally alike the one
with the later name. -/
def candidateOrder (first second : Likeness × String) : Bool :=
  first.1.exceeds second.1 || (!second.1.exceeds first.1 && second.2 ≤ first.2)

/-- The three names that are most like a word, of those that are close to it, in the order of the
alphabet. -/
def suggestions (word : String) (names : List String) : List String :=
  let candidates := names.map fun name => (Likeness.of name.toList word.toList, name)
  let close := (candidates.filter (·.1.isClose)).mergeSort candidateOrder
  ((close.take 3).map (·.2)).mergeSort fun first second => decide (first ≤ second)

end Footgun.Text
