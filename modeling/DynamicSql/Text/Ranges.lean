import DynamicSql.Text.Numeral

/-!
# Character tables

A table of characters is a list of ranges of code points, in increasing order.
-/

namespace DynamicSql.Text

/-- Whether a code point lies in one of the ranges. -/
def inRanges (ranges : List (Nat × Nat)) (n : Nat) : Bool :=
  ranges.any fun (first, last) => first ≤ n && n ≤ last

end DynamicSql.Text
