import Letterhead.Text.Basic

/-
  Sets of code points, given by the points at which membership changes.
-/

namespace Letterhead

/-- A set of code points as the ascending list of points where membership changes: the first
change enters the set, the second leaves it, and so on. -/
structure CodeSet where
  changes : Array Nat

/-- A code point is in the set when an odd number of changes lie at or below it. -/
def CodeSet.contains (s : CodeSet) (n : Nat) : Bool := s.changes.countP (· ≤ n) % 2 == 1

end Letterhead
