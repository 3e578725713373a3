/-!
Sets of characters given as ranges of code points, in ascending order.
-/

namespace Chronicle.Text

/-- A code point lies in one of the ranges. -/
def inRanges (ranges : List (Nat × Nat)) (n : Nat) : Bool :=
  ranges.any fun (first, last) => first ≤ n && n ≤ last

end Chronicle.Text
