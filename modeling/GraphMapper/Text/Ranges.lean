/-!
# Ranges of code points

Properties of characters that the Unicode standard lists are kept as ranges of code points, both
ends included.
-/

namespace GraphMapper.Text

/-- Whether a number lies in one of several ranges. -/
def inRanges (ranges : List (Nat × Nat)) (n : Nat) : Bool :=
  ranges.any fun r => decide (r.1 ≤ n ∧ n ≤ r.2)

end GraphMapper.Text
