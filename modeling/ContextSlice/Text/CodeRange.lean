/-!
# Ranges of code points

A property of characters is given as a list of inclusive ranges of code points
(`CodeRanges`), looked up one range after another (`CodeRanges.contains`).
-/

namespace ContextSlice.Text

/-- Inclusive ranges of code points, each as its first and last member. -/
abbrev CodeRanges := List (Nat × Nat)

/-- Whether the code point of `c` lies in one of the ranges. -/
def CodeRanges.contains (ranges : CodeRanges) (c : Char) : Bool :=
  ranges.any fun range => range.1 ≤ c.toNat && c.toNat ≤ range.2

end ContextSlice.Text
