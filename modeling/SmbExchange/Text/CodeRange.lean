/-!
# Ranges of code points

A class of characters is given by the ranges of its code points, both ends included.
-/

namespace SmbExchange

/-- The first and the last code point of a range. -/
abbrev CodeRange := Nat × Nat

/-- A code point lies in one of the ranges. -/
def inRanges (ranges : List CodeRange) (code : Nat) : Bool :=
  ranges.any fun range => range.1 ≤ code && code ≤ range.2

end SmbExchange
