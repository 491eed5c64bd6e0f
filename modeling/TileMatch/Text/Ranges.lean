/-!
# Sets of characters given by ranges

A Unicode property is a list of ranges of code points in increasing order; both ends of a range
belong to it.
-/

namespace TileMatch

namespace Text

/-- A list of ranges of code points. -/
abbrev Ranges := List (Nat × Nat)

/-- Whether a character lies in one of the ranges. -/
def Ranges.contains (ranges : Ranges) (c : Char) : Bool :=
  ranges.any fun range => range.1 ≤ c.toNat && c.toNat ≤ range.2

end Text

end TileMatch
