/-!
# Sets of code points

A character class given by a standard is a table of inclusive intervals in ascending order.
-/

namespace LineLexer

/-- Inclusive intervals of code points in ascending order. -/
abbrev CodePoints := List (Nat × Nat)

/-- Membership; the search ends at the first interval beyond the character. -/
def CodePoints.contains : CodePoints → Char → Bool
  | [], _ => false
  | (lo, hi) :: rest, c =>
    if c.toNat < lo then false else if c.toNat ≤ hi then true else CodePoints.contains rest c

end LineLexer
