/-!
# Ranges of code points

A property of characters is kept as a list of closed ranges of code points, ascending and apart.
-/

namespace EntityScribe.Text

/-- Membership in ascending ranges; the search stops at the first range above the code point. -/
def inRanges : List (Nat × Nat) → Nat → Bool
  | [], _ => false
  | (first, last) :: rest, n =>
      if n < first then false
      else if n ≤ last then true
      else inRanges rest n

end EntityScribe.Text
