/-!
# Ranges of characters

A property of characters that a standard defines by enumeration is a list of ranges of code points.
-/

namespace Bindery

namespace Text

/-- Ranges of code points by their first and last members. -/
abbrev CharRanges := List (Nat × Nat)

/-- Whether a character lies in one of the ranges. -/
def CharRanges.mem (ranges : CharRanges) (c : Char) : Bool :=
  ranges.any fun range => range.1 ≤ c.toNat && c.toNat ≤ range.2

end Text

end Bindery
