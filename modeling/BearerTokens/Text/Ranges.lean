/-!
# Ranges of characters

A set of characters as a list of ranges of code points.
-/

set_option autoImplicit false

namespace BearerTokens.Text

/-- First and last code points, in ascending order. -/
abbrev Ranges := List (Nat × Nat)

def Ranges.contain (ranges : Ranges) (c : Char) : Bool :=
  match ranges.dropWhile fun range => decide (range.2 < c.toNat) with
  | [] => false
  | range :: _ => decide (range.1 ≤ c.toNat)

end BearerTokens.Text
