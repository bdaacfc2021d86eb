/-!
# Sets of characters as intervals

A property of characters is given by the intervals of code points that have it, in ascending order.
-/

namespace ExprLang.Unicode

/-- Intervals of code points, both ends included. -/
abbrev Intervals := List (Nat × Nat)

/-- Whether a character lies in one of the intervals.  Those after it are not looked at. -/
def Intervals.contains : Intervals → Char → Bool
  | [], _ => false
  | (lo, hi) :: rest, c => lo ≤ c.toNat && (c.toNat ≤ hi || contains rest c)

end ExprLang.Unicode
