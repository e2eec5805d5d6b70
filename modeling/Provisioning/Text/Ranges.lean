/-!
# Sets of characters given by ranges

A property of characters is kept as a list of closed ranges of code points.
-/

namespace Provisioning.Text

/-- Whether a code point lies in one of the ranges. -/
def inRanges (ranges : List (Nat × Nat)) (code : Nat) : Bool :=
  ranges.any fun r => decide (r.1 ≤ code) && decide (code ≤ r.2)

end Provisioning.Text
