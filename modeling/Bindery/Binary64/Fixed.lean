import Bindery.Binary64.Shortest

/-!
# Fixed decimal places

A number with a fixed count of digits after the point: the exact value is rounded once to a
multiple of `10 ^ (-places)`, a half going to the even neighbour.  The sign bit is always shown,
so that a negative number that rounds to zero is written `-0.00`.
-/

namespace Bindery

namespace Binary64

/-- The magnitude of the number in units of `10 ^ (-places)`, rounded half to even. -/
def units (x : Binary64) (places : Nat) : Nat :=
  roundHalfEven (x.numerator * Nat.pow 10 places) x.denominator

/-- Digits with a point before the last `places` of them, and no point when `places` is zero. -/
def fixedDigits (units places : Nat) : List Char :=
  let digits := Nat.toDigits 10 units
  if places = 0 then digits else Decimal.pointed digits places

/-- The number with exactly `places` digits after the point. -/
def fixed (x : Binary64) (places : Nat) : List Char :=
  let magnitude := fixedDigits (x.units places) places
  if x.negative then '-' :: magnitude else magnitude

end Binary64

end Bindery
