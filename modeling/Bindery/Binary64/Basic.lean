/-!
# Finite binary64 numbers

The numbers of a model and of a style payload are IEEE 754 binary64 numbers, never infinite and
never NaN, because no JSON text denotes one of those.  `Binary64` holds exactly these values: a
sign, a significand and a power of two, in the one canonical form each value has.  Because the
form is canonical, `=` on `Binary64` separates exactly the values with different bit patterns; the
two zeros are the only two that also count as the same number (`Binary64.numEq`).

Everything here is exact arithmetic on `Nat` and `Int`, so that every statement about numbers and
their text is a statement about integers.
-/

namespace Bindery

/-- The first bit of a significand of full length, `2 ^ 52`. -/
def Binary64.leadingBit : Nat := 0x10000000000000

/-- The significand and exponent of a binary64 value in canonical form: fewer than 53 bits only at
the least exponent, which is the subnormal range. -/
def Binary64.Canonical (significand : Nat) (exponent : Int) : Prop :=
  significand < 2 * leadingBit ∧ -1074 ≤ exponent ∧ exponent ≤ 971 ∧
    (exponent = -1074 ∨ leadingBit ≤ significand)

instance (significand : Nat) (exponent : Int) :
    Decidable (Binary64.Canonical significand exponent) :=
  inferInstanceAs (Decidable (_ ∧ _ ∧ _ ∧ _))

/-- A finite binary64 number, of value `± significand * 2 ^ exponent`. -/
structure Binary64 where
  /-- Whether the sign bit is set. -/
  negative : Bool
  significand : Nat
  exponent : Int
  canonical : Binary64.Canonical significand exponent
deriving DecidableEq

namespace Binary64

/-- The number with these parts, if they are in canonical form. -/
def ofParts? (negative : Bool) (significand : Nat) (exponent : Int) : Option Binary64 :=
  if h : Canonical significand exponent then some ⟨negative, significand, exponent, h⟩ else none

/-- Zero with the given sign. -/
def zero (negative : Bool) : Binary64 :=
  ⟨negative, 0, -1074, by decide⟩

/-- The finite number of largest magnitude with the given sign. -/
def largest (negative : Bool) : Binary64 :=
  ⟨negative, 2 * leadingBit - 1, 971, by decide⟩

instance : Inhabited Binary64 := ⟨zero false⟩

/-- Whether the number is one of the two zeros. -/
def isZero (x : Binary64) : Bool :=
  x.significand == 0

/-- Equality as numbers: the zeros are equal to each other, and any other number only to itself. -/
def numEq (x y : Binary64) : Bool :=
  x == y || (x.isZero && y.isZero)

@[simp] theorem numEq_self (x : Binary64) : x.numEq x = true := by
  simp [numEq]

/-- The magnitude of the number is `numerator / denominator`. -/
def numerator (x : Binary64) : Nat :=
  x.significand * Nat.pow 2 x.exponent.toNat

/-- The magnitude of the number is `numerator / denominator`. -/
def denominator (x : Binary64) : Nat :=
  Nat.pow 2 (-x.exponent).toNat

end Binary64

end Bindery
