import Mathlib.Data.List.TakeWhile
import Bindery.Proofs.Binary64.Rounding

/-!
# The shortest text of a number is read back

The text of a number is a decimal that was found by a search: for one digit, two digits, and so on
up to seventeen, the two grid points next to the number are tested, and the first that reads back is
taken.  The test counts in quarters of a unit in the last place and is exact, so what it accepts is
what the number covers (`Shortest.readsBack_iff`).  That reading gives the number again is then
`ofDecimal?_of_covers`, once it is known that the search finds anything at all.

It does because a grid is fine enough when its points are sixteen decimal places below the leading
digit (`Shortest.isSome_onGrid?`): a number has fewer than 53 bits, and `2 ^ 53` is less than
`10 ^ 16`, so the grid point nearest to the number is less than half a unit away from it, and less
than a quarter of a unit if the number is a power of two.  The leading digit itself is only guessed
from the leading bit.  A guess that is too small costs nothing but digits, so all that is used of it
is that `10` to the guess is not above the number (`Shortest.ten_zpow_leadingExponent_le`).

`ofDecimal?_of_value_eq` is stated for the value of the decimal and not for its digits, because a
text may write the same value with another exponent and with zeros at its end.
-/

namespace Bindery

namespace Decimal

/-- The value of a decimal. -/
def value (d : Decimal) : ℚ :=
  d.digits * 10 ^ d.exponent

theorem trimZeros_append (digits : List Char) :
    (trimZeros digits).1 ++ List.replicate (trimZeros digits).2 '0' = digits := by
  have hsplit : digits.reverse.takeWhile (· == '0') ++ digits.reverse.dropWhile (· == '0') =
      digits.reverse := List.takeWhile_append_dropWhile
  have hzeros : (digits.reverse.takeWhile (· == '0')) =
      List.replicate (digits.reverse.takeWhile (· == '0')).length '0' := by
    rw [List.eq_replicate_iff]
    exact ⟨rfl, fun c hc => of_decide_eq_true (List.mem_takeWhile_imp (p := (· == '0')) hc)⟩
  have hlength := congrArg List.length hsplit
  rw [List.length_append, List.length_reverse] at hlength
  have hdigits := congrArg List.reverse hsplit
  rw [List.reverse_append, List.reverse_reverse, hzeros, List.reverse_replicate] at hdigits
  rw [trimZeros]
  simp only [List.length_reverse]
  rw [← hlength, Nat.add_sub_cancel]
  exact hdigits

/-- The digits of a decimal are those without the zeros at the end, times a power of ten. -/
theorem pow_mul_value_trimZeros (digits : Nat) :
    10 ^ (trimZeros (Nat.toDigits 10 digits)).2 *
      Digits.value (trimZeros (Nat.toDigits 10 digits)).1 = digits := by
  have hdigits := congrArg Digits.value (trimZeros_append (Nat.toDigits 10 digits))
  rwa [Digits.value_append, Digits.value_toDigits, Digits.value_replicate_zero,
    List.length_replicate, Nat.add_zero] at hdigits

theorem normal_of_digits_eq_zero {d : Decimal} (h : d.digits = 0) : d.normal = ⟨0, 0⟩ :=
  if_pos h

theorem normal_of_digits_ne_zero {d : Decimal} (h : d.digits ≠ 0) :
    d.normal = ⟨Digits.value (trimZeros (Nat.toDigits 10 d.digits)).1,
      d.exponent + (trimZeros (Nat.toDigits 10 d.digits)).2⟩ :=
  if_neg h

/-- Zeros at the end of the digits do not matter to the value. -/
theorem value_normal (d : Decimal) : d.normal.value = d.value := by
  by_cases hzero : d.digits = 0
  · rw [normal_of_digits_eq_zero hzero]
    simp [value, hzero]
  · rw [normal_of_digits_ne_zero hzero]
    simp only [value]
    conv_rhs => rw [← pow_mul_value_trimZeros d.digits]
    rw [zpow_add₀ (by norm_num), zpow_natCast]
    push_cast
    ring

theorem exponent_normal_of_digits_eq_zero {d : Decimal} (h : d.normal.digits = 0) :
    d.normal.exponent = 0 := by
  by_cases hzero : d.digits = 0
  · rw [normal_of_digits_eq_zero hzero]
  · rw [normal_of_digits_ne_zero hzero] at h
    have hdigits := pow_mul_value_trimZeros d.digits
    dsimp only at h
    rw [h, Nat.mul_zero] at hdigits
    exact absurd hdigits.symm hzero

end Decimal

namespace Binary64

namespace Shortest

variable {x : Binary64}

/-- The magnitude of a number. -/
def magnitude (x : Binary64) : ℚ :=
  x.significand * 2 ^ x.exponent

/-! ## The grid -/

/-- What the search multiplies out. -/
theorem spacing_eq (x : Binary64) (grid : ℤ) :
    (spacing x grid : ℚ) = 4 * (10 ^ grid / 2 ^ x.exponent) * scaled x grid 1 := by
  have htwo : ((Nat.pow 2 (2 - x.exponent).toNat : ℕ) : ℚ) =
      2 ^ (2 - x.exponent) * (Nat.pow 2 (x.exponent - 2).toNat : ℕ) := by
    have := pow_toNat_div_pow_toNat_neg two_ne_zero (2 - x.exponent)
    rw [neg_sub, Nat.cast_ofNat, div_eq_iff (by simp)] at this
    exact this
  have hten : ((Nat.pow 10 grid.toNat : ℕ) : ℚ) = 10 ^ grid * (Nat.pow 10 (-grid).toNat : ℕ) := by
    have := pow_toNat_div_pow_toNat_neg (show (10 : ℕ) ≠ 0 by decide) grid
    rw [Nat.cast_ofNat, div_eq_iff (by simp)] at this
    exact this
  rw [spacing, scaled, Nat.cast_mul, htwo, hten, Nat.cast_mul, Nat.cast_mul, zpow_sub₀ two_ne_zero]
  push_cast
  ring

theorem scaled_eq (x : Binary64) (grid : ℤ) (quarters : Nat) :
    (scaled x grid quarters : ℚ) = quarters * scaled x grid 1 := by
  simp only [scaled, Nat.cast_mul, Nat.cast_one]
  ring

theorem scaled_one_pos (x : Binary64) (grid : ℤ) : (0 : ℚ) < scaled x grid 1 := by
  rw [Nat.cast_pos]
  exact Nat.mul_pos (Nat.mul_pos one_pos (Nat.pow_pos two_pos)) (Nat.pow_pos (by decide))

theorem point_eq (x : Binary64) (grid : ℤ) (digits : Nat) :
    ((digits * spacing x grid : ℕ) : ℚ) =
      4 * (digits * 10 ^ grid / 2 ^ x.exponent) * scaled x grid 1 := by
  rw [Nat.cast_mul, spacing_eq]
  ring

/-- **The test of the search is whether the number covers the grid point.** -/
theorem readsBack_iff {grid : ℤ} {digits : Nat} :
    readsBack x grid digits = true ↔ x.Covers (digits * 10 ^ grid) := by
  have hpos := scaled_one_pos x grid
  have hle : ∀ quarters, scaled x grid quarters ≤ digits * spacing x grid ↔
      (quarters : ℚ) ≤ 4 * (digits * 10 ^ grid / 2 ^ x.exponent) := by
    intro quarters
    rw [← Nat.cast_le (α := ℚ), point_eq, scaled_eq x grid quarters, mul_le_mul_iff_left₀ hpos]
  have hge : ∀ quarters, digits * spacing x grid ≤ scaled x grid quarters ↔
      4 * (digits * 10 ^ grid / 2 ^ x.exponent) ≤ (quarters : ℚ) := by
    intro quarters
    rw [← Nat.cast_le (α := ℚ), point_eq, scaled_eq x grid quarters, mul_le_mul_iff_left₀ hpos]
  unfold readsBack Covers
  split
  · simp only [Bool.and_eq_true, decide_eq_true_eq, hle, hge]
  · simp only [Bool.and_eq_true, decide_eq_true_eq, ← not_le, hle, hge]

theorem covers_of_onGrid? {grid : ℤ} {d : Decimal} (h : onGrid? x grid = some d) :
    x.Covers (d.digits * 10 ^ d.exponent) := by
  unfold onGrid? at h
  extract_lets num below nearest farther at h
  split at h
  · next hnearest =>
    obtain rfl := Option.some.inj h
    exact readsBack_iff.1 hnearest
  split at h
  · next hfarther =>
    obtain rfl := Option.some.inj h
    exact readsBack_iff.1 hfarther
  · exact absurd h (Option.some_ne_none _).symm

theorem covers_of_lt {q : ℚ} (hlower : lower x < 4 * (q / 2 ^ x.exponent))
    (hupper : 4 * (q / 2 ^ x.exponent) < upper x) : x.Covers q := by
  unfold Covers
  split
  · exact ⟨hlower.le, hupper.le⟩
  · exact ⟨hlower, hupper⟩

/-- On a grid that is fine enough the number covers the nearest point. -/
theorem covers_of_isRounded {grid : ℤ} (hfine : 10 ^ grid * 10 ^ 16 ≤ magnitude x) {nearest : ℕ}
    (h : IsRounded nearest (magnitude x / 10 ^ grid)) : x.Covers (nearest * 10 ^ grid) := by
  have hpos : (0 : ℚ) < 2 ^ x.exponent := by positivity
  obtain ⟨step, hstep⟩ : ∃ step : ℚ, step = 10 ^ grid / 2 ^ x.exponent := ⟨_, rfl⟩
  have hsteps : 4 * (nearest * 10 ^ grid / 2 ^ x.exponent : ℚ) = 4 * (nearest * step) := by
    rw [hstep, mul_div_assoc]
  have hmiddle : magnitude x / 10 ^ grid * step = x.significand := by
    rw [hstep, magnitude]
    field_simp
  have hpositive : 0 < step := by
    rw [hstep]
    positivity
  have hfiner : step * 10 ^ 16 ≤ x.significand := by
    rw [hstep, div_mul_eq_mul_div, div_le_iff₀ hpos]
    exact hfine
  have hlow := mul_le_mul_of_nonneg_right h.lower hpositive.le
  have hhigh := mul_le_mul_of_nonneg_right h.upper hpositive.le
  rw [hmiddle] at hlow hhigh
  have hsignificand : (x.significand : ℚ) < 2 ^ 53 := by
    have hbits : leadingBit = 2 ^ 52 := rfl
    have := x.canonical.1
    exact_mod_cast show x.significand < 2 ^ 53 by omega
  have hone : 1 ≤ x.significand := by
    have : (0 : ℚ) < x.significand := lt_of_lt_of_le (by positivity) hfiner
    exact_mod_cast this
  apply covers_of_lt <;> rw [hsteps]
  · unfold lower
    split
    · next hpower =>
      have hleading : (x.significand : ℚ) = 2 ^ 52 := by
        rw [hpower.1]
        norm_num [leadingBit]
      rw [Nat.cast_sub (by omega)]
      push_cast
      linarith
    · rw [Nat.cast_sub (by omega)]
      push_cast
      linarith
  · rw [upper_eq]
    linarith

/-- A grid that is fine enough has a point that the number covers. -/
theorem isSome_onGrid? {grid : ℤ} (hfine : 10 ^ grid * 10 ^ 16 ≤ magnitude x) :
    (onGrid? x grid).isSome := by
  have hspacing : 0 < spacing x grid :=
    Nat.mul_pos (Nat.pow_pos two_pos) (Nat.pow_pos (by decide))
  have hquotient : (scaled x grid (middle x) / spacing x grid : ℚ) = magnitude x / 10 ^ grid := by
    have hscaled := (scaled_one_pos x grid).ne'
    rw [spacing_eq, scaled_eq x grid (middle x), middle, magnitude]
    push_cast
    field_simp
  have hrounded := isRounded_roundHalfEven (scaled x grid (middle x)) hspacing
  rw [hquotient] at hrounded
  have hread := readsBack_iff.2 (covers_of_isRounded hfine hrounded)
  simp only [onGrid?, hread, if_true, Option.isSome_some]

/-! ## The leading digit -/

/-- A power of ten is at most a power of two, if it is so for the approximation `p / q` of
`log 2 / log 10`. -/
theorem ten_zpow_le_two_zpow {p q : ℕ} {j k : ℤ} (hq : q ≠ 0) (hj : j * q ≤ p * k)
    (h : ((10 : ℚ) ^ p) ^ k ≤ (2 ^ q) ^ k) : (10 : ℚ) ^ j ≤ 2 ^ k := by
  apply le_of_pow_le_pow_left₀ hq (by positivity)
  calc ((10 : ℚ) ^ j) ^ q = 10 ^ (j * q) := by rw [zpow_mul, zpow_natCast]
    _ ≤ 10 ^ (p * k) := zpow_le_zpow_right₀ (by norm_num) hj
    _ = (10 ^ p) ^ k := by rw [zpow_mul, zpow_natCast]
    _ ≤ (2 ^ q) ^ k := h
    _ = (2 ^ k) ^ q := by rw [← zpow_natCast, ← zpow_natCast, zpow_comm]

/-- The guess for the leading digit is too large by one at most. -/
theorem ten_zpow_guess_le {k : ℤ} (hlow : -1074 ≤ k) (hhigh : k ≤ 1023) :
    (10 : ℚ) ^ (k * 30103 / 100000 - 1) ≤ 2 ^ k := by
  obtain hneg | hnonneg := lt_or_ge k 0
  · apply ten_zpow_le_two_zpow (p := 28) (q := 93) (by decide) (by omega)
    have hinv : ∀ a : ℚ, a ^ k = a⁻¹ ^ (-k) := fun a => by rw [inv_zpow', neg_neg]
    rw [hinv (10 ^ 28), hinv (2 ^ 93)]
    apply zpow_le_zpow_left₀ (by omega) (by positivity)
    norm_num
  · apply ten_zpow_le_two_zpow (p := 59) (q := 196) (by decide) (by omega)
    apply zpow_le_zpow_left₀ hnonneg (by positivity)
    norm_num

theorem reaches_iff {lead : ℤ} : reaches x lead = true ↔ 10 ^ lead ≤ magnitude x := by
  have hmagnitude : magnitude x = x.numerator / x.denominator := by
    rw [magnitude, numerator, denominator, ← Nat.cast_ofNat (R := ℚ),
      ← pow_toNat_div_pow_toNat_neg two_ne_zero, Nat.cast_mul, mul_div_assoc]
  rw [reaches, decide_eq_true_eq, hmagnitude, ← Nat.cast_ofNat (R := ℚ),
    ← pow_toNat_div_pow_toNat_neg (by decide), div_le_div_iff₀ (by simp) (by simp [denominator])]
  norm_cast

theorem ten_zpow_leadingExponent_le (hx : x.significand ≠ 0) :
    10 ^ leadingExponent x ≤ magnitude x := by
  unfold leadingExponent
  extract_lets guess
  split
  · next h => exact reaches_iff.1 h
  split
  · next h => exact reaches_iff.1 h
  · obtain ⟨hsignificand, hleast, hgreatest, -⟩ := x.canonical
    have hbits : leadingBit = 2 ^ 52 := rfl
    have hlog : x.significand.log2 < 53 := (Nat.log2_lt hx).2 (by omega)
    calc (10 : ℚ) ^ (guess - 1) ≤ 2 ^ (x.significand.log2 + x.exponent) :=
          ten_zpow_guess_le (by omega) (by omega)
      _ = 2 ^ x.significand.log2 * 2 ^ x.exponent := by
        rw [zpow_add₀ two_ne_zero, zpow_natCast]
      _ ≤ magnitude x := by
        rw [magnitude]
        gcongr
        exact_mod_cast Nat.log2_self_le hx
end Shortest

/-! ## The shortest decimal -/

theorem shortest_of_significand_eq_zero {x : Binary64} (hx : x.significand = 0) :
    x.shortest = ⟨0, 0⟩ := by
  rw [shortest, if_pos (by simp [isZero, hx])]

theorem exponent_shortest_of_digits_eq_zero (x : Binary64) (h : x.shortest.digits = 0) :
    x.shortest.exponent = 0 := by
  rw [shortest] at h ⊢
  split at h
  · next hzero => rw [if_pos hzero]
  · next hzero =>
    rw [if_neg hzero]
    exact Decimal.exponent_normal_of_digits_eq_zero h

/-- **A number covers its shortest decimal.**  If no coarser grid has a point that reads back, the
one of seventeen digits has one. -/
theorem covers_shortest {x : Binary64} (hx : x.significand ≠ 0) : x.Covers x.shortest.value := by
  let search := (List.range 17).findSome? fun (places : Nat) =>
    Shortest.onGrid? x (Shortest.leadingExponent x - places)
  have hsome : search.isSome := by
    rw [List.findSome?_isSome_iff]
    refine ⟨16, by decide, Shortest.isSome_onGrid? ?_⟩
    rw [← zpow_natCast, ← zpow_add₀ (by norm_num), Nat.cast_ofNat, sub_add_cancel]
    exact Shortest.ten_zpow_leadingExponent_le hx
  obtain ⟨found, hfound⟩ := Option.isSome_iff_exists.1 hsome
  have hshortest : x.shortest = found.normal := by
    rw [shortest, if_neg (by simpa [isZero] using hx)]
    exact congrArg (fun found => (found.getD ⟨0, 0⟩).normal) hfound
  obtain ⟨places, -, hplaces⟩ := List.exists_of_findSome?_eq_some hfound
  rw [hshortest, Decimal.value_normal]
  exact Shortest.covers_of_onGrid? hplaces

/-- **The shortest decimal is read back**, in any way of writing its value as an integer times a
power of ten. -/
theorem ofDecimal?_of_value_eq {x : Binary64} {digits : Nat} {exponent : ℤ}
    (h : digits * 10 ^ exponent = x.shortest.value) :
    ofDecimal? x.negative digits exponent = some x := by
  by_cases hx : x.significand = 0
  · have hbits : leadingBit = 2 ^ 52 := rfl
    have hleast : x.exponent = -1074 := by
      have := x.canonical.2.2.2
      omega
    have hzero : zero x.negative = x := by
      obtain ⟨negative, significand, exponent, hcanonical⟩ := x
      subst hx hleast
      rfl
    have hdigits : digits = 0 := by
      rw [shortest_of_significand_eq_zero hx, Decimal.value, Nat.cast_zero, zero_mul,
        mul_eq_zero_iff_right (by positivity)] at h
      exact_mod_cast h
    rw [ofDecimal?, if_pos (Or.inl hdigits), hzero]
  · apply ofDecimal?_of_covers hx
    rw [h]
    exact covers_shortest hx

end Binary64

end Bindery
