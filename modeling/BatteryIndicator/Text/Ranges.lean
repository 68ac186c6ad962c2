/-!
# Ranges — character classes given by tables of code points

A class of characters is a list of ranges of code points, both ends included; a character belongs to the class when
one of the ranges holds its code point.
-/
namespace BatteryIndicator
namespace Text

/-- Whether one of the ranges holds the character's code point. -/
def inRanges (ranges : List (Nat × Nat)) (c : Char) : Bool :=
  ranges.any fun r => decide (r.1 ≤ c.toNat) && decide (c.toNat ≤ r.2)

theorem inRanges_eq_true_iff {ranges : List (Nat × Nat)} {c : Char} :
    inRanges ranges c = true ↔ ∃ r ∈ ranges, r.1 ≤ c.toNat ∧ c.toNat ≤ r.2 := by
  simp [inRanges]

end Text
end BatteryIndicator
