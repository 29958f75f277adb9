import Bindery.Binary64.Basic

/-!
# Rounding to binary64

A nonnegative rational is given as `num / den`.  The power of two of the result is fixed first
(`targetExponent`): the one that leaves a significand of 53 bits, but never below the least one.
The quotient by that power is then rounded once, a half going to the even neighbour, and rounding
up to `2 ^ 53` carries into the exponent.  Rounding once from the exact quotient is what makes the
result the nearest number.

* `Binary64.ofRatio?`: the nearest number, or none if it would not be finite.
* `Binary64.ofDecimal?`: the same for `digits * 10 ^ exponent`.
* `Binary64.ofInt`: the number nearest to an integer.
-/

namespace Bindery

/-- The quotient rounded to an integer, a half going to the even neighbour. -/
def roundHalfEven (num den : Nat) : Nat :=
  if 2 * (num % den) < den then num / den
  else if den < 2 * (num % den) then num / den + 1
  else num / den + num / den % 2

namespace Binary64

/-- The power of two at which `num / den` has an integer part of 53 bits, or the least power if
that one is larger.  The base two logarithm of the quotient is the difference of those of its
terms, or one less. -/
def targetExponent (num den : Nat) : Int :=
  let guess : Int := num.log2 - den.log2 - 52
  let fits := den * Nat.pow 2 (guess + 52).toNat ≤ num * Nat.pow 2 (-(guess + 52)).toNat
  max (if fits then guess else guess - 1) (-1074)

/-- The number nearest to `num / den`, or none if that number is not finite. -/
def ofRatio? (negative : Bool) (num den : Nat) : Option Binary64 :=
  let exponent := targetExponent num den
  let significand :=
    roundHalfEven (num * Nat.pow 2 (-exponent).toNat) (den * Nat.pow 2 exponent.toNat)
  if significand = 2 * leadingBit then ofParts? negative leadingBit (exponent + 1)
  else ofParts? negative significand exponent

/-- The number nearest to `digits * 10 ^ exponent`, or none if that number is not finite.  A
magnitude out of all range is settled without computing the power: above `10 ^ 309` nothing is
finite, and below `10 ^ (-324)` everything rounds to zero. -/
def ofDecimal? (negative : Bool) (digits : Nat) (exponent : Int) : Option Binary64 :=
  let magnitude := (Nat.toDigits 10 digits).length + exponent
  if digits = 0 ∨ magnitude < -330 then some (zero negative)
  else if 330 < magnitude then none
  else ofRatio? negative (digits * Nat.pow 10 exponent.toNat) (Nat.pow 10 (-exponent).toNat)

/-- The finite number nearest to an integer. -/
def ofInt (n : Int) : Binary64 :=
  if n = 0 then zero false
  else (ofRatio? (n < 0) n.natAbs 1).getD (largest (n < 0))

end Binary64

end Bindery
