/-!
# Sets of code points as sorted ranges

A property of characters is a list of closed ranges in increasing order. `Ranges.contains` stops
at the first range that lies above the code point.
-/
namespace BrowserPlan.Text

/-- Closed ranges of code points, in increasing order. -/
abbrev Ranges := List (Nat × Nat)

namespace Ranges

/-- Whether `c` lies in one of the ranges. -/
def contains : Ranges → Nat → Bool
  | [], _ => false
  | (lo, hi) :: rest, c => if c < lo then false else c ≤ hi || contains rest c

end Ranges
end BrowserPlan.Text
