/-! # Character tables

A class of characters is given by the ranges of code points that belong to it. -/

namespace Footgun.Text

/-- Ranges of code points, both ends included. -/
abbrev Ranges :=
  List (Nat × Nat)

/-- Whether the code point of a character lies in one of the ranges. -/
def Ranges.covers (ranges : Ranges) (c : Char) : Bool :=
  ranges.any fun range => range.1 ≤ c.toNat && c.toNat ≤ range.2

/-- The test `covers` looks for a range around the character. -/
theorem Ranges.covers_iff (ranges : Ranges) (c : Char) :
    ranges.covers c = true ↔ ∃ range ∈ ranges, range.1 ≤ c.toNat ∧ c.toNat ≤ range.2 := by
  simp [Ranges.covers]

end Footgun.Text
