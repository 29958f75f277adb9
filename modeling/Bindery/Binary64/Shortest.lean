import Bindery.Binary64.Rounding
import Bindery.Digits

/-!
# Shortest decimal text of a number

The text of a number is the decimal with the fewest digits that reads back as that number, and of
those the nearest to it.  The reals that round to a number form an interval around it, whose ends
belong to it exactly when the significand is even.  For one digit, two digits, and so on, the grid
of decimals with that many digits has a point in the interval only if one of the two grid points
next to the number is in it, so testing these two is enough (`Shortest.onGrid?`).

* `Binary64.shortest`: the chosen decimal.
* `Binary64.text`: its layout, positional for decimal exponents from `-5` to `15` and scientific
  otherwise.
-/

namespace Bindery

/-- A nonnegative decimal `digits * 10 ^ exponent`. -/
structure Decimal where
  digits : Nat
  exponent : Int
deriving DecidableEq, Repr

namespace Decimal

/-- Digits without the zeros at their end, and how many zeros those were. -/
def trimZeros (digits : List Char) : List Char × Nat :=
  let trimmed := (digits.reverse.dropWhile (· == '0')).reverse
  (trimmed, digits.length - trimmed.length)

/-- The decimal without zeros at the end of its digits. -/
def normal (d : Decimal) : Decimal :=
  if d.digits = 0 then ⟨0, 0⟩
  else
    let (digits, zeros) := trimZeros (Nat.toDigits 10 d.digits)
    ⟨Digits.value digits, d.exponent + zeros⟩

end Decimal

namespace Binary64

namespace Shortest

/-- Quarters of a unit in the last place from zero to the number itself. -/
def middle (x : Binary64) : Nat :=
  4 * x.significand

/-- Quarters of a unit in the last place from zero to the least real that rounds to the number.
Below a power of two the numbers stand twice as close. -/
def lower (x : Binary64) : Nat :=
  if x.significand = leadingBit ∧ -1074 < x.exponent then 4 * x.significand - 1
  else 4 * x.significand - 2

/-- Quarters of a unit in the last place from zero to the greatest real that rounds to the
number. -/
def upper (x : Binary64) : Nat :=
  4 * x.significand + 2

/-- Numerator of `quarters` over the spacing of the grid with exponent `grid`. -/
def scaled (x : Binary64) (grid : Int) (quarters : Nat) : Nat :=
  quarters * Nat.pow 2 (x.exponent - 2).toNat * Nat.pow 10 (-grid).toNat

/-- Denominator that goes with `scaled`. -/
def spacing (x : Binary64) (grid : Int) : Nat :=
  Nat.pow 2 (2 - x.exponent).toNat * Nat.pow 10 grid.toNat

/-- Whether the grid point `digits * 10 ^ grid` reads back as the number. -/
def readsBack (x : Binary64) (grid : Int) (digits : Nat) : Bool :=
  let point := digits * spacing x grid
  let low := scaled x grid (lower x)
  let high := scaled x grid (upper x)
  if x.significand % 2 = 0 then low ≤ point && point ≤ high else low < point && point < high

/-- The grid point nearest to the number among those that read back as it; of two equally near
ones the even one. -/
def onGrid? (x : Binary64) (grid : Int) : Option Decimal :=
  let num := scaled x grid (middle x)
  let below := num / spacing x grid
  let nearest := roundHalfEven num (spacing x grid)
  let farther := if nearest = below then below + 1 else below
  if readsBack x grid nearest then some ⟨nearest, grid⟩
  else if readsBack x grid farther then some ⟨farther, grid⟩
  else none

/-- Whether the magnitude of the number is at least `10 ^ lead`. -/
def reaches (x : Binary64) (lead : Int) : Bool :=
  Nat.pow 10 lead.toNat * x.denominator ≤ x.numerator * Nat.pow 10 (-lead).toNat

/-- The exponent of the leading decimal digit of a number other than zero.  The exponent of its
leading bit times `log 2 / log 10`, which `30103 / 100000` approximates, is off by at most one. -/
def leadingExponent (x : Binary64) : Int :=
  let guess := (x.significand.log2 + x.exponent) * 30103 / 100000
  if reaches x (guess + 1) then guess + 1 else if reaches x guess then guess else guess - 1

end Shortest

/-- The decimal with the fewest digits that reads back as the magnitude of the number, and of
those the nearest.  Seventeen digits always suffice. -/
def shortest (x : Binary64) : Decimal :=
  if x.isZero then ⟨0, 0⟩
  else
    let lead := Shortest.leadingExponent x
    let found := (List.range 17).findSome? fun (places : Nat) => Shortest.onGrid? x (lead - places)
    (found.getD ⟨0, 0⟩).normal

end Binary64

/-- How a decimal is laid out: the exponents of the leading digit that are written positionally. -/
structure DecimalLayout where
  leastPositional : Int
  greatestPositional : Int

/-- Numbers are written positionally from `0.00001` up to sixteen digits before the point. -/
def numberLayout : DecimalLayout := ⟨-5, 15⟩

namespace Decimal

/-- Digits with a point before the last `places` of them, and a zero on either side of the point
that would be bare. -/
def pointed (digits : List Char) (places : Nat) : List Char :=
  let padded := List.replicate (places + 1 - digits.length) '0' ++ digits
  let whole := padded.take (padded.length - places)
  let fraction := padded.drop (padded.length - places)
  whole ++ '.' :: (if fraction.isEmpty then ['0'] else fraction)

/-- The text of a decimal in a layout.  An integral value keeps `.0`, and the exponent of the
scientific form always has a sign. -/
def text (layout : DecimalLayout) (d : Decimal) : List Char :=
  let digits := Nat.toDigits 10 d.digits
  let lead := d.exponent + digits.length - 1
  if layout.leastPositional ≤ lead ∧ lead ≤ layout.greatestPositional then
    pointed (digits ++ List.replicate d.exponent.toNat '0') (-d.exponent).toNat
  else
    let mantissa := match digits with
      | [] => []
      | [digit] => [digit]
      | digit :: fraction => digit :: '.' :: fraction
    let sign := if lead < 0 then '-' else '+'
    mantissa ++ 'e' :: sign :: Nat.toDigits 10 lead.natAbs

end Decimal

namespace Binary64

/-- The text of a number: its shortest decimal, after a `-` if the sign bit is set. -/
def text (x : Binary64) : String :=
  let magnitude := x.shortest.text numberLayout
  String.ofList (if x.negative then '-' :: magnitude else magnitude)

end Binary64

end Bindery
