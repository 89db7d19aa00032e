/-!
# Ranges of characters

Properties of characters are given as ranges of code points in increasing order.
-/

namespace CircuitDispatch.Text

/-- Whether a number lies in one of the ranges, which include both ends. -/
def inRanges (ranges : List (Nat × Nat)) (n : Nat) : Bool :=
  ranges.any fun r => r.1 ≤ n && n ≤ r.2

end CircuitDispatch.Text
