/-!
# `FilterSql.Text.Ranges`: sets of code points

Properties of characters are given as lists of closed ranges.
-/

set_option autoImplicit false

namespace FilterSql.Text

/-- Whether `n` lies in one of the ranges. -/
def inRanges (ranges : List (Nat × Nat)) (n : Nat) : Bool :=
  ranges.any fun range => range.1 ≤ n && n ≤ range.2

end FilterSql.Text
