import Bindery.Json.Basic
import Bindery.Proofs.Binary64.Shortest

/-!
# The nearest number

Rounding a quotient gives a number that no other finite number is nearer to
(`Binary64.nearest_of_ofRatio?`).  The numbers on the grid of the power of two that is chosen for
the quotient are multiples of that power, and among them the nearest is taken.  The numbers that are
not on the grid are all below the leading bit of the quotient, where the grid has a number that is
nearer (`Binary64.magnitude_grid`).

For an integer of a word the result is an integer again (`Binary64.magnitude_ofInt`), since the grid
is either coarser than the integers or holds the integer itself.  So an integer is changed if and
only if it has more bits before its last zeros than a significand holds (`Binary64.isExact_iff`).
-/

namespace Bindery

namespace IsRounded

theorem natCast (n : ℕ) : IsRounded n (n : ℚ) where
  lower := by linarith
  upper := by linarith
  odd := fun _ => by constructor <;> linarith

/-- No integer is nearer to a rational than what it is rounded to. -/
theorem nearest {n : ℕ} {q : ℚ} (h : IsRounded n q) (c : ℕ) : |(n : ℚ) - q| ≤ |(c : ℚ) - q| := by
  have hlower := h.lower
  have hupper := h.upper
  obtain hlt | heq | hgt := lt_trichotomy c n
  · have hnext : (c : ℚ) + 1 ≤ n := mod_cast hlt
    rw [abs_of_nonpos (show (c : ℚ) - q ≤ 0 by linarith), abs_le]
    constructor <;> linarith
  · rw [heq]
  · have hnext : (n : ℚ) + 1 ≤ c := mod_cast hgt
    rw [abs_of_nonneg (show 0 ≤ (c : ℚ) - q by linarith), abs_le]
    constructor <;> linarith

/-- The same for the multiples of a unit. -/
theorem nearest_mul {n : ℕ} {q unit : ℚ} (hunit : 0 < unit) (h : IsRounded n (q / unit)) (c : ℕ) :
    |n * unit - q| ≤ |c * unit - q| := by
  have hscale : ∀ m : ℕ, |m * unit - q| = |(m : ℚ) - q / unit| * unit := by
    intro m
    rw [← abs_of_pos hunit, ← abs_mul, abs_of_pos hunit, sub_mul, div_mul_cancel₀ _ hunit.ne']
  rw [hscale, hscale]
  exact mul_le_mul_of_nonneg_right (h.nearest c) hunit.le

end IsRounded

namespace Binary64

open Shortest (magnitude)

/-! ## Magnitudes -/

theorem magnitude_nonneg (x : Binary64) : 0 ≤ magnitude x := by
  rw [magnitude]
  positivity

theorem numerator_div_denominator (x : Binary64) :
    (x.numerator : ℚ) / x.denominator = magnitude x := by
  rw [numerator, denominator, Nat.cast_mul, mul_div_assoc,
    pow_toNat_div_pow_toNat_neg two_ne_zero, Nat.cast_ofNat, magnitude]

theorem denominator_pos (x : Binary64) : 0 < x.denominator :=
  Nat.pow_pos two_pos

/-- A number is on the grid of a power of two, or it is less than the numbers of the grid with all
their bits. -/
theorem magnitude_grid (x : Binary64) (k : ℤ) :
    (∃ c : ℕ, magnitude x = c * 2 ^ k) ∨ (x.exponent < k ∧ magnitude x < 2 ^ 52 * 2 ^ k) := by
  obtain hle | hlt := le_or_gt k x.exponent
  · refine .inl ⟨x.significand * 2 ^ (x.exponent - k).toNat, ?_⟩
    have hexponent : x.exponent = (x.exponent - k).toNat + k := by omega
    rw [magnitude, Nat.cast_mul, Nat.cast_pow, Nat.cast_ofNat, mul_assoc, ← zpow_natCast,
      ← zpow_add₀ two_ne_zero, ← hexponent]
  · refine .inr ⟨hlt, ?_⟩
    have hbits : leadingBit = 2 ^ 52 := rfl
    have hsignificand : (x.significand : ℚ) < 2 ^ 53 := by
      exact_mod_cast show x.significand < 2 ^ 53 from by
        have := x.canonical.1
        omega
    calc magnitude x < 2 ^ 53 * 2 ^ x.exponent :=
          mul_lt_mul_of_pos_right hsignificand (by positivity)
      _ ≤ 2 ^ 53 * 2 ^ (k - 1) := by
        gcongr
        · exact one_le_two
        · omega
      _ = 2 ^ 52 * 2 ^ k := by
        rw [zpow_sub_one₀ two_ne_zero]
        ring

/-! ## Rounding a quotient -/

/-- The significand before the carry has 53 bits, or is the power of two above them. -/
theorem significand_bounds {n : ℕ} {q : ℚ} (hq : 0 < q)
    (h : IsRounded n (q / 2 ^ (Int.log 2 q - 52))) : 2 ^ 52 ≤ n ∧ n ≤ 2 ^ 53 := by
  have hlower : (2 : ℚ) ^ Int.log 2 q ≤ q := mod_cast Int.zpow_log_le_self one_lt_two hq
  have hupper : q < 2 ^ (Int.log 2 q + 1) := mod_cast Int.lt_zpow_succ_log_self one_lt_two q
  have hunit : (0 : ℚ) < 2 ^ (Int.log 2 q - 52) := by positivity
  have hbottom : (2 : ℚ) ^ 52 * 2 ^ (Int.log 2 q - 52) = 2 ^ Int.log 2 q := by
    rw [← zpow_natCast, ← zpow_add₀ two_ne_zero]
    congr 1
    norm_num
  have htop : (2 : ℚ) ^ 53 * 2 ^ (Int.log 2 q - 52) = 2 ^ (Int.log 2 q + 1) := by
    rw [← zpow_natCast, ← zpow_add₀ two_ne_zero]
    congr 1
    push_cast
    ring
  rw [← hbottom, ← le_div_iff₀ hunit] at hlower
  rw [← htop, ← div_lt_iff₀ hunit] at hupper
  constructor
  · have hbelow : ((2 ^ 52 : ℕ) : ℚ) < (n + 1 : ℕ) := by
      push_cast
      linarith [h.upper]
    have := Nat.cast_lt.1 hbelow
    omega
  · have habove : ((n : ℕ) : ℚ) < (2 ^ 53 + 1 : ℕ) := by
      push_cast
      linarith [h.lower]
    have := Nat.cast_lt.1 habove
    omega

theorem ofParts?_eq_some_iff {negative : Bool} {significand : ℕ} {exponent : ℤ} {x : Binary64} :
    ofParts? negative significand exponent = some x ↔
      x.negative = negative ∧ x.significand = significand ∧ x.exponent = exponent := by
  unfold ofParts?
  constructor
  · intro h
    split at h
    · cases h
      exact ⟨rfl, rfl, rfl⟩
    · cases h
  · rintro ⟨rfl, rfl, rfl⟩
    exact dif_pos x.canonical

theorem exists_isRounded (num : ℕ) {den : ℕ} (hden : 0 < den) (k : ℤ) :
    ∃ n : ℕ, IsRounded n (num / den / 2 ^ k : ℚ) := by
  rw [← scaled_quotient]
  exact ⟨_, isRounded_roundHalfEven _ (Nat.mul_pos hden (Nat.pow_pos two_pos))⟩

/-- What is rounded, and to what: the carry moves a factor two into the exponent and leaves the
magnitude. -/
theorem magnitude_of_ofRatio? {negative : Bool} {num den : ℕ} (hden : 0 < den) {x : Binary64}
    (h : ofRatio? negative num den = some x) :
    x.negative = negative ∧
      ∃ n : ℕ, IsRounded n (num / den / 2 ^ targetExponent num den : ℚ) ∧
        magnitude x = n * 2 ^ targetExponent num den := by
  obtain ⟨n, hn⟩ := exists_isRounded num hden (targetExponent num den)
  rw [ofRatio?_eq hden rfl hn] at h
  split at h
  · next hcarry =>
    obtain ⟨hnegative, hsignificand, hexponent⟩ := ofParts?_eq_some_iff.1 h
    refine ⟨hnegative, n, hn, ?_⟩
    rw [magnitude, hsignificand, hexponent, hcarry, zpow_add_one₀ two_ne_zero]
    push_cast
    ring
  · obtain ⟨hnegative, hsignificand, hexponent⟩ := ofParts?_eq_some_iff.1 h
    exact ⟨hnegative, n, hn, by rw [magnitude, hsignificand, hexponent]⟩

/-- **Rounding gives a nearest number.** -/
theorem nearest_of_ofRatio? {negative : Bool} {num den : ℕ} (hnum : 0 < num) (hden : 0 < den)
    {x : Binary64} (h : ofRatio? negative num den = some x) (y : Binary64) :
    |magnitude x - num / den| ≤ |magnitude y - num / den| := by
  obtain ⟨-, n, hn, hx⟩ := magnitude_of_ofRatio? hden h
  have htarget := targetExponent_eq hnum hden
  generalize targetExponent num den = k at hn hx htarget
  have hunit : (0 : ℚ) < 2 ^ k := by positivity
  obtain ⟨c, hc⟩ | ⟨hexponent, hbelow⟩ := magnitude_grid y k
  · rw [hx, hc]
    exact hn.nearest_mul hunit c
  · -- a number has a smaller exponent, so the exponent of the grid was not cut off
    have hleast := y.canonical.2.1
    have hk : k + 52 = Int.log 2 (num / den : ℚ) := by omega
    have hlead : (2 : ℚ) ^ 52 * 2 ^ k ≤ num / den := by
      rw [mul_comm, ← zpow_natCast, ← zpow_add₀ two_ne_zero, Nat.cast_ofNat, hk]
      exact_mod_cast Int.zpow_log_le_self one_lt_two (show (0 : ℚ) < num / den by positivity)
    have hnearest := hn.nearest_mul hunit (2 ^ 52)
    rw [Nat.cast_pow, Nat.cast_ofNat] at hnearest
    calc |magnitude x - num / den| ≤ |(2 : ℚ) ^ 52 * 2 ^ k - num / den| := by
          rw [hx]
          exact hnearest
      _ = num / den - 2 ^ 52 * 2 ^ k := by rw [abs_of_nonpos (by linarith), neg_sub]
      _ ≤ num / den - magnitude y := by linarith
      _ ≤ |magnitude y - num / den| := by
          rw [abs_sub_comm]
          exact le_abs_self _

/-! ## Integers -/

/-- The value of a number. -/
def value (x : Binary64) : ℚ :=
  if x.negative then -magnitude x else magnitude x

theorem abs_value (x : Binary64) : |x.value| = magnitude x := by
  rw [value]
  split
  · rw [abs_neg, abs_of_nonneg x.magnitude_nonneg]
  · exact abs_of_nonneg x.magnitude_nonneg

theorem targetExponent_natCast {m : ℕ} (hm : m ≠ 0) : targetExponent m 1 = Nat.log 2 m - 52 := by
  rw [targetExponent_eq (Nat.pos_of_ne_zero hm) one_pos, Nat.cast_one, div_one, Int.log_natCast]
  omega

/-- A multiple of the power of two that is chosen for it is not changed. -/
theorem magnitude_eq_of_multiple {negative : Bool} {m c : ℕ} {x : Binary64}
    (h : ofRatio? negative m 1 = some x) (hc : (m : ℚ) = c * 2 ^ targetExponent m 1) :
    magnitude x = m := by
  obtain ⟨-, n, hn, hx⟩ := magnitude_of_ofRatio? one_pos h
  rw [Nat.cast_one, div_one, hc, mul_div_cancel_right₀ _ (by positivity)] at hn
  rw [hx, hn.unique (IsRounded.natCast c), ← hc]

/-- What has zeros at its end is a multiple of every power of two up to their number. -/
theorem exists_multiple (c : ℕ) {zeros : ℕ} {k : ℤ} (hk : k ≤ zeros) :
    ∃ d : ℕ, ((c * 2 ^ zeros : ℕ) : ℚ) = d * 2 ^ k := by
  refine ⟨c * 2 ^ (zeros - k).toNat, ?_⟩
  rw [Nat.cast_mul, Nat.cast_mul, Nat.cast_pow, Nat.cast_pow, Nat.cast_ofNat, mul_assoc,
    ← zpow_natCast 2 (zeros - k).toNat, Int.toNat_of_nonneg (by omega), ← zpow_add₀ two_ne_zero,
    sub_add_cancel, zpow_natCast]

/-- An integer is rounded to an integer: at a power of two that is none itself, it is a multiple of
the power already. -/
theorem exists_magnitude_of_ofRatio?_one {negative : Bool} {m : ℕ} (hm : m ≠ 0) {x : Binary64}
    (h : ofRatio? negative m 1 = some x) : ∃ r : ℕ, r ≠ 0 ∧ magnitude x = r := by
  obtain hfraction | hinteger := le_or_gt (targetExponent m 1) 0
  · obtain ⟨c, hc⟩ := exists_multiple m (show targetExponent m 1 ≤ (0 : ℕ) from hfraction)
    rw [pow_zero, mul_one] at hc
    exact ⟨m, hm, magnitude_eq_of_multiple h hc⟩
  · obtain ⟨-, n, hn, hx⟩ := magnitude_of_ofRatio? one_pos h
    have hne : n ≠ 0 := by
      rw [Nat.cast_one, div_one, targetExponent_natCast hm, ← Int.log_natCast (R := ℚ)] at hn
      have := (significand_bounds (Nat.cast_pos.2 (Nat.pos_of_ne_zero hm)) hn).1
      omega
    refine ⟨n * 2 ^ (targetExponent m 1).toNat, Nat.mul_ne_zero hne (by positivity), ?_⟩
    rw [hx, Nat.cast_mul, Nat.cast_pow, Nat.cast_ofNat, ← zpow_natCast,
      Int.toNat_of_nonneg hinteger.le]

/-- The integers of a word are far below the largest number. -/
theorem exists_ofRatio?_one (negative : Bool) {m : ℕ} (hm : m ≠ 0) (hword : m < 2 ^ 64) :
    ∃ x, ofRatio? negative m 1 = some x := by
  have htarget := targetExponent_natCast hm
  have hpos : (0 : ℚ) < m := Nat.cast_pos.2 (Nat.pos_of_ne_zero hm)
  have hlog : Nat.log 2 m < 64 := Nat.log_lt_of_lt_pow hm hword
  have hbits : leadingBit = 2 ^ 52 := rfl
  obtain ⟨n, hn⟩ := exists_isRounded m one_pos (targetExponent m 1)
  have hbounds : 2 ^ 52 ≤ n ∧ n ≤ 2 ^ 53 := by
    refine significand_bounds hpos ?_
    rw [Int.log_natCast, ← htarget]
    simpa using hn
  rw [ofRatio?_eq one_pos rfl hn]
  split
  · exact ⟨_, dif_pos (by unfold Canonical; omega)⟩
  · exact ⟨_, dif_pos (by unfold Canonical; omega)⟩

section Word

variable {n : ℤ}

theorem ofRatio?_eq_ofInt (hn : Json.Number.IsWord n) (hzero : n ≠ 0) :
    ofRatio? (n < 0) n.natAbs 1 = some (ofInt n) := by
  obtain ⟨hlower, hupper⟩ := hn
  obtain ⟨x, hx⟩ := exists_ofRatio?_one (n < 0) (Int.natAbs_ne_zero.2 hzero) (by omega)
  rw [ofInt, if_neg hzero, hx, Option.getD_some]

/-- **The number of an integer is an integer, and none is nearer.** -/
theorem nearest_ofInt (hn : Json.Number.IsWord n) (y : Binary64) :
    |(ofInt n).value - n| ≤ |y.value - n| := by
  by_cases hzero : n = 0
  · have hvalue : (ofInt 0).value = 0 := by
      simp [ofInt, value, zero, magnitude]
    rw [hzero, hvalue, Int.cast_zero, sub_self, abs_zero]
    exact abs_nonneg _
  · have hround := ofRatio?_eq_ofInt hn hzero
    obtain ⟨hnegative, -⟩ := magnitude_of_ofRatio? one_pos hround
    have hnearest := nearest_of_ofRatio? (Int.natAbs_pos.2 hzero) one_pos hround y
    rw [Nat.cast_one, div_one, Nat.cast_natAbs, Int.cast_abs] at hnearest
    calc |(ofInt n).value - n| = |magnitude (ofInt n) - abs (n : ℚ)| := by
          rw [value, hnegative]
          obtain hlt | hge := lt_or_ge n 0
          · have hcast : (n : ℚ) < 0 := Int.cast_lt_zero.2 hlt
            rw [if_pos (decide_eq_true hlt), abs_of_neg hcast, ← abs_neg]
            ring_nf
          · have hcast : (0 : ℚ) ≤ n := Int.cast_nonneg hge
            rw [if_neg (by simpa using hge), abs_of_nonneg hcast]
      _ ≤ |magnitude y - abs (n : ℚ)| := hnearest
      _ ≤ |y.value - n| := by
          rw [← y.abs_value]
          exact abs_abs_sub_abs_le _ _

/-- The number of an integer has a natural number as its magnitude, and the sign of the integer. -/
theorem magnitude_ofInt (hn : Json.Number.IsWord n) :
    (ofInt n).negative = decide (n < 0) ∧
      ∃ r : ℕ, (r = 0 ↔ n = 0) ∧ magnitude (ofInt n) = r := by
  by_cases hzero : n = 0
  · rw [hzero]
    exact ⟨by decide, 0, by simp, by simp [ofInt, zero, magnitude]⟩
  · have hround := ofRatio?_eq_ofInt hn hzero
    obtain ⟨r, hr, hmagnitude⟩ :=
      exists_magnitude_of_ofRatio?_one (Int.natAbs_ne_zero.2 hzero) hround
    exact ⟨(magnitude_of_ofRatio? one_pos hround).1, r, by simp [hr, hzero], hmagnitude⟩

/-- Whether an integer is the value of a number. -/
def IsExact (n : ℤ) : Prop :=
  ∃ x : Binary64, x.value = n

/-- The value of a number is not changed. -/
theorem eq_of_value_ofInt {r : ℤ} (hn : Json.Number.IsWord n) (h : IsExact n)
    (hr : (ofInt n).value = r) : r = n := by
  obtain ⟨y, hy⟩ := h
  have hnearest := nearest_ofInt hn y
  rw [hy, hr, sub_self, abs_zero, abs_nonpos_iff, sub_eq_zero, Int.cast_inj] at hnearest
  exact hnearest

theorem value_of_magnitude {x : Binary64} (hnegative : x.negative = decide (n < 0))
    (h : magnitude x = n.natAbs) : x.value = n := by
  rw [value, hnegative, h, Nat.cast_natAbs, Int.cast_abs]
  obtain hlt | hge := lt_or_ge n 0
  · rw [if_pos (decide_eq_true hlt), abs_of_neg (Int.cast_lt_zero.2 hlt), neg_neg]
  · rw [if_neg (by simpa using hge), abs_of_nonneg (Int.cast_nonneg hge)]

theorem exists_bits_of_isExact (h : IsExact n) :
    ∃ c zeros : ℕ, c < 2 ^ 53 ∧ n.natAbs = c * 2 ^ zeros := by
  obtain ⟨x, hx⟩ := h
  have hbits : leadingBit = 2 ^ 52 := rfl
  have hlt : x.significand < 2 ^ 53 := by
    have := x.canonical.1
    omega
  have hmagnitude : (n.natAbs : ℚ) = x.significand * 2 ^ x.exponent := by
    rw [← magnitude, ← abs_value, hx, Nat.cast_natAbs, Int.cast_abs]
  obtain hle | hgt := le_or_gt 0 x.exponent
  · refine ⟨x.significand, x.exponent.toNat, hlt, ?_⟩
    rw [← Int.toNat_of_nonneg hle, zpow_natCast] at hmagnitude
    exact_mod_cast hmagnitude
  · -- the significand holds all bits of the integer and more behind the point
    refine ⟨n.natAbs, 0, lt_of_le_of_lt ?_ hlt, by rw [pow_zero, mul_one]⟩
    have hunit : (2 : ℚ) ^ x.exponent ≤ 1 := zpow_le_one_of_nonpos₀ one_le_two hgt.le
    have hle : (n.natAbs : ℚ) ≤ x.significand := by
      rw [hmagnitude]
      exact mul_le_of_le_one_right (Nat.cast_nonneg _) hunit
    exact_mod_cast hle

theorem isExact_of_bits (hn : Json.Number.IsWord n) {c zeros : ℕ} (hc : c < 2 ^ 53)
    (h : n.natAbs = c * 2 ^ zeros) : IsExact n := by
  by_cases hzero : n = 0
  · exact ⟨zero false, by simp [hzero, value, zero, magnitude]⟩
  have hround := ofRatio?_eq_ofInt hn hzero
  have htarget := targetExponent_natCast (Int.natAbs_ne_zero.2 hzero)
  have hlog : Nat.log 2 n.natAbs < 53 + zeros := by
    refine Nat.log_lt_of_lt_pow (Int.natAbs_ne_zero.2 hzero) ?_
    rw [h, pow_add]
    exact Nat.mul_lt_mul_of_pos_right hc (by positivity)
  obtain ⟨d, hd⟩ := exists_multiple c (show targetExponent n.natAbs 1 ≤ zeros by omega)
  rw [← h] at hd
  exact ⟨ofInt n, value_of_magnitude (magnitude_ofInt hn).1 (magnitude_eq_of_multiple hround hd)⟩

/-- **The integers that are not changed** are those that have at most 53 bits before their last
zeros. -/
theorem isExact_iff (hn : Json.Number.IsWord n) :
    IsExact n ↔ ∃ c zeros : ℕ, c < 2 ^ 53 ∧ n.natAbs = c * 2 ^ zeros :=
  ⟨exists_bits_of_isExact, fun ⟨_, _, hc, h⟩ => isExact_of_bits hn hc h⟩

/-- A word of at most 53 bits is not changed, and neither is the power of two above them. -/
theorem isExact_of_natAbs_le (hle : n.natAbs ≤ 2 ^ 53) : IsExact n := by
  have hword : Json.Number.IsWord n := by
    unfold Json.Number.IsWord
    omega
  obtain hlt | heq := hle.lt_or_eq
  · exact isExact_of_bits hword hlt (show n.natAbs = n.natAbs * 2 ^ 0 by rw [pow_zero, mul_one])
  · exact isExact_of_bits hword (show 1 < 2 ^ 53 by decide) (by rw [heq, one_mul])

end Word

end Binary64

end Bindery
