/-!
# Sets of characters as ranges of code points

A property of characters is written down as the ranges of code points that have it.

## Main definitions

* `Text.inRanges ranges c` — the code point of `c` lies in one of the inclusive ranges.
-/

namespace NamedCells.Text

/-- Whether the code point of `c` lies in one of the inclusive ranges. -/
def inRanges (ranges : List (Nat × Nat)) (c : Char) : Bool :=
  ranges.any fun (first, last) => first ≤ c.toNat && c.toNat ≤ last

end NamedCells.Text
