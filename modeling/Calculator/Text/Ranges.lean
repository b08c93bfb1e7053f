/-! # Sets of characters given by ranges

A property of Unicode is kept as the ascending list of the ranges of code points that have it. -/

namespace Calculator.Text

/-- Closed ranges of code points, each given by its least and its greatest member. -/
abbrev Ranges := List (Nat × Nat)

/-- The code point of the character lies in one of the ranges. -/
def Ranges.contains (ranges : Ranges) (c : Char) : Bool :=
  ranges.any fun range => range.1 ≤ c.toNat && c.toNat ≤ range.2

theorem Ranges.contains_iff {ranges : Ranges} {c : Char} :
    ranges.contains c = true ↔ ∃ range ∈ ranges, range.1 ≤ c.toNat ∧ c.toNat ≤ range.2 := by
  simp [Ranges.contains]

end Calculator.Text
