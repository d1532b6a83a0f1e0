/-!
# Sets of characters given by ranges

The properties of the Unicode character database that this library needs are
tables of closed ranges of code points, in ascending order.
-/

namespace Lamplight.Text

/-- Closed ranges of code points. -/
abbrev CodeRanges := List (Nat × Nat)

/-- Whether a code point lies in one of the ranges. -/
def CodeRanges.contains (ranges : CodeRanges) (code : Nat) : Bool :=
  ranges.any fun (low, high) => low ≤ code && code ≤ high

end Lamplight.Text
