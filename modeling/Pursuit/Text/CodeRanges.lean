/-! # Sets of characters given by ranges of code points

A property that a standard lists by ranges is kept as the list of those ranges, in ascending order.
-/

namespace Pursuit.Text

/-- Ranges of code points, each with its first and last member, in ascending order. -/
abbrev CodeRanges := List (Nat × Nat)

namespace CodeRanges

/-- A code point belongs to the set when one of the ranges holds it. The search ends at the first
range that starts beyond it. -/
def contains : CodeRanges → Nat → Bool
  | [], _ => false
  | (lo, hi) :: rest, n => if n < lo then false else n ≤ hi || contains rest n

end CodeRanges

end Pursuit.Text
