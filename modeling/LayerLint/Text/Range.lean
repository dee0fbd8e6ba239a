-- Classes of characters given by ranges of code points.

namespace LayerLint.Text

/-- The code points from the first to the second, both included. -/
abbrev Range := Nat × Nat

/-- Whether a character lies in one of the ranges. -/
def inRanges (ranges : List Range) (c : Char) : Bool :=
  ranges.any fun r => r.1 ≤ c.toNat && c.toNat ≤ r.2

end LayerLint.Text
