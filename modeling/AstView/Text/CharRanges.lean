/-!
# Ranges of characters

A property of characters is given by the ranges of code points that have it, in ascending
order, with both ends included.
-/
namespace AstView.Text

/-- Ranges of code points. -/
abbrev CharRanges := List (Nat × Nat)

/-- Whether a character is in one of some ranges. -/
def CharRanges.contains (ranges : CharRanges) (char : Char) : Bool :=
  ranges.any fun range => decide (range.1 ≤ char.toNat) && decide (char.toNat ≤ range.2)

end AstView.Text
