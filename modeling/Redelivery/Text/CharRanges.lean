/-!
# Ranges of code points

A set of characters is given by inclusive ranges of code points, from low to
high, in a few lists one after the other.
-/

namespace Redelivery.Text

/-- Whether one of the ranges holds the code point. -/
def inRanges (ranges : List (Nat × Nat)) (point : Nat) : Bool :=
  ranges.any fun range => decide (range.1 ≤ point ∧ point ≤ range.2)

/-- Whether the ranges, which ascend, hold the code point.  Only the first list
that does not end below it is searched. -/
def inTable (table : List (List (Nat × Nat))) (point : Nat) : Bool :=
  let endsBelow (ranges : List (Nat × Nat)) : Bool :=
    ranges.getLast?.all fun range => decide (range.2 < point)
  match table.dropWhile endsBelow with
  | [] => false
  | ranges :: _ => inRanges ranges point

end Redelivery.Text
