/-!
# Sets of characters

A set of characters as an increasing list of closed ranges of code points.
-/

namespace ConceptModel.Text

/-- Closed ranges of code points, in increasing order. -/
abbrev CodePoints := List (Nat × Nat)

/-- Whether a code point lies in one of the ranges.  The order of the ranges lets the
search end at the first one beyond it. -/
def CodePoints.holds : CodePoints → Nat → Bool
  | [], _ => false
  | (lo, hi) :: rest, c => if c < lo then false else c ≤ hi || CodePoints.holds rest c

end ConceptModel.Text
