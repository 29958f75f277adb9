import Mathlib.Algebra.Order.Field.Power
import Mathlib.Data.Int.Log
import Mathlib.Data.Rat.Floor
import Mathlib.Tactic.FieldSimp
import Mathlib.Tactic.Linarith
import Mathlib.Tactic.NormNum
import Mathlib.Tactic.Positivity
import Bindery.Binary64.Shortest
import Bindery.Proofs.Digits

/-!
# What rounds to a number

The rationals that round to a binary64 number form an interval around it, and the search for the
shortest text of a number is a search in this interval.  Rounding is defined without it: a power of
two is chosen for the quotient, the quotient by that power is rounded to an integer, and a carry is
moved into the exponent.  This file joins the two.  `Covers` is the interval, in the quarters of a
unit in the last place that the search counts in, and `ofRatio?_of_covers` says that a quotient in
the interval of a number rounds to that number.

The power of two that is chosen is known from the logarithm of the quotient
(`targetExponent_eq`).  For a quotient in the interval it is the exponent of the number, with one
exception.  A quotient just below a power of two has the smaller exponent, so that it is rounded
with one more bit than the number has, and reaches the number only by the carry
(`Covers.carries`).  This is also why the interval of a power of two is shorter below than above.

Quotients are taken in `ℚ`, where the two natural powers that stand for one integer power become
that power again (`pow_toNat_div_pow_toNat_neg`).
-/

namespace Bindery

/-- An integer power, from the two natural powers that arithmetic on naturals has in its place. -/
theorem pow_toNat_div_pow_toNat_neg {b : ℕ} (hb : b ≠ 0) (k : ℤ) :
    ((Nat.pow b k.toNat : ℕ) : ℚ) / (Nat.pow b (-k).toNat : ℕ) = (b : ℚ) ^ k := by
  have hpos : (b : ℚ) ≠ 0 := Nat.cast_ne_zero.2 hb
  simp only [Nat.pow_eq, Nat.cast_pow]
  rw [← zpow_natCast, ← zpow_natCast, ← zpow_sub₀ hpos]
  congr 1
  omega

/-! ## Rounding to an integer -/

/-- Whether a rational is rounded to this integer, a half going to the even neighbour. -/
structure IsRounded (n : Nat) (q : ℚ) : Prop where
  lower : n - 1 / 2 ≤ q
  upper : q ≤ n + 1 / 2
  odd : n % 2 = 1 → n - 1 / 2 < q ∧ q < n + 1 / 2

theorem IsRounded.le {n m : Nat} {q : ℚ} (hn : IsRounded n q) (hm : IsRounded m q) : n ≤ m := by
  by_contra hlt
  have hlower := hn.lower
  have hupper := hm.upper
  have hnext : n = m + 1 := by
    have : (n : ℚ) ≤ (m + 1 : ℕ) := by
      push_cast
      linarith
    have := Nat.cast_le.1 this
    omega
  -- The rational is half way between the two, and one of them is odd.
  subst hnext
  push_cast at hlower
  obtain hodd | hodd : m % 2 = 1 ∨ (m + 1) % 2 = 1 := by omega
  · linarith [(hm.odd hodd).2]
  · have := (hn.odd hodd).1
    push_cast at this
    linarith

theorem IsRounded.unique {n m : Nat} {q : ℚ} (hn : IsRounded n q) (hm : IsRounded m q) : n = m :=
  Nat.le_antisymm (hn.le hm) (hm.le hn)

theorem isRounded_roundHalfEven (num : Nat) {den : Nat} (hden : 0 < den) :
    IsRounded (roundHalfEven num den) (num / den) := by
  have hpos : (0 : ℚ) < den := Nat.cast_pos.2 hden
  have hquotient : (num / den : ℚ) = (num / den : ℕ) + (num % den : ℕ) / den := by
    rw [div_eq_iff hpos.ne', add_mul, div_mul_cancel₀ _ hpos.ne']
    exact_mod_cast (Nat.div_add_mod' num den).symm
  have hnonneg : (0 : ℚ) ≤ (num % den : ℕ) / den := by positivity
  have hlt : ((num % den : ℕ) / den : ℚ) < 1 := by
    rw [div_lt_one hpos]
    exact_mod_cast Nat.mod_lt num hden
  have hbelow : 2 * (num % den) < den ↔ ((num % den : ℕ) / den : ℚ) < 1 / 2 := by
    rw [div_lt_div_iff₀ hpos two_pos, one_mul, mul_comm]
    exact_mod_cast Iff.rfl
  have habove : den < 2 * (num % den) ↔ 1 / 2 < ((num % den : ℕ) / den : ℚ) := by
    rw [div_lt_div_iff₀ two_pos hpos, one_mul, mul_comm]
    exact_mod_cast Iff.rfl
  unfold roundHalfEven
  rw [hquotient]
  simp only [hbelow, habove]
  split
  · constructor
    · linarith
    · linarith
    · intro
      constructor <;> linarith
  split
  · constructor <;> push_cast
    · linarith
    · linarith
    · intro
      constructor <;> linarith
  · -- Half way the integer that is taken is even, whatever the parity of the quotient.
    obtain hparity | hparity := Nat.mod_two_eq_zero_or_one (num / den)
    all_goals
      rw [hparity]
      constructor
      · push_cast
        linarith
      · push_cast
        linarith
      · omega

theorem roundHalfEven_eq {num den n : Nat} (hden : 0 < den) (h : IsRounded n (num / den)) :
    roundHalfEven num den = n :=
  (isRounded_roundHalfEven num hden).unique h

namespace Binary64

/-! ## Rounding at a power of two -/

/-- The power of two of a quotient, from its logarithm. -/
theorem targetExponent_eq {num den : Nat} (hnum : 0 < num) (hden : 0 < den) :
    targetExponent num den = max (Int.log 2 (num / den : ℚ) - 52) (-1074) := by
  have hnumpos : (0 : ℚ) < num := Nat.cast_pos.2 hnum
  have hdenpos : (0 : ℚ) < den := Nat.cast_pos.2 hden
  have hpos : (0 : ℚ) < num / den := by positivity
  obtain ⟨d, hd⟩ : ∃ d : ℤ, d = num.log2 - den.log2 := ⟨_, rfl⟩
  have hnumlog : (2 : ℚ) ^ (num.log2 : ℤ) ≤ num := mod_cast Nat.log2_self_le hnum.ne'
  have hnumlt : (num : ℚ) < 2 ^ (num.log2 + 1 : ℤ) := mod_cast Nat.lt_log2_self (n := num)
  have hdenlog : (2 : ℚ) ^ (den.log2 : ℤ) ≤ den := mod_cast Nat.log2_self_le hden.ne'
  have hdenlt : (den : ℚ) < 2 ^ (den.log2 + 1 : ℤ) := mod_cast Nat.lt_log2_self (n := den)
  have hupper : Int.log 2 (num / den : ℚ) < d + 1 := by
    rw [← Int.lt_zpow_iff_log_lt one_lt_two hpos, div_lt_iff₀ hdenpos, Nat.cast_ofNat]
    calc (num : ℚ) < 2 ^ (num.log2 + 1 : ℤ) := hnumlt
      _ = 2 ^ (d + 1) * 2 ^ (den.log2 : ℤ) := by
        rw [← zpow_add₀ two_ne_zero]
        congr 1
        omega
      _ ≤ 2 ^ (d + 1) * den := by gcongr
  have hlower : d - 1 ≤ Int.log 2 (num / den : ℚ) := by
    rw [← Int.zpow_le_iff_le_log one_lt_two hpos, le_div_iff₀ hdenpos, Nat.cast_ofNat]
    calc (2 : ℚ) ^ (d - 1) * den ≤ 2 ^ (d - 1) * 2 ^ (den.log2 + 1 : ℤ) := by gcongr
      _ = 2 ^ (num.log2 : ℤ) := by
        rw [← zpow_add₀ two_ne_zero]
        congr 1
        omega
      _ ≤ num := hnumlog
  have hfits : den * Nat.pow 2 d.toNat ≤ num * Nat.pow 2 (-d).toNat ↔
      d ≤ Int.log 2 (num / den : ℚ) := by
    rw [← Int.zpow_le_iff_le_log one_lt_two hpos, ← pow_toNat_div_pow_toNat_neg two_ne_zero,
      div_le_div_iff₀ (by simp) hdenpos, mul_comm]
    norm_cast
  have hguess : (num.log2 - den.log2 - 52 : ℤ) + 52 = d := by omega
  rw [targetExponent]
  simp only [hguess, hfits]
  split <;> congr 1 <;> omega

/-- The quotient that is rounded to the significand, in units of a power of two. -/
theorem scaled_quotient (num den : Nat) (k : ℤ) :
    ((num * Nat.pow 2 (-k).toNat : ℕ) : ℚ) / (den * Nat.pow 2 k.toNat : ℕ) = num / den / 2 ^ k := by
  rw [← Nat.cast_ofNat (R := ℚ), ← pow_toNat_div_pow_toNat_neg two_ne_zero k]
  simp only [Nat.cast_mul, Nat.pow_eq, Nat.cast_pow]
  field_simp

/-- Rounding when the power of two and the integer are known. -/
theorem ofRatio?_eq {negative : Bool} {num den n : Nat} {k : ℤ} (hden : 0 < den)
    (hk : targetExponent num den = k) (h : IsRounded n (num / den / 2 ^ k : ℚ)) :
    ofRatio? negative num den =
      if n = 2 * leadingBit then ofParts? negative leadingBit (k + 1)
      else ofParts? negative n k := by
  have hround : roundHalfEven (num * Nat.pow 2 (-k).toNat) (den * Nat.pow 2 k.toNat) = n := by
    rw [← scaled_quotient] at h
    exact roundHalfEven_eq (Nat.mul_pos hden (Nat.pow_pos two_pos)) h
  simp only [ofRatio?, hk, hround]

theorem ofParts?_eq_some (x : Binary64) :
    ofParts? x.negative x.significand x.exponent = some x :=
  dif_pos x.canonical

/-! ## The interval of a number -/

/-- Whether a rational lies in the interval of those that round to the magnitude of a number.  The
ends of the interval are half way to the neighbours, and belong to it if the significand is even. -/
def Covers (x : Binary64) (q : ℚ) : Prop :=
  let quarters : ℚ := 4 * (q / 2 ^ x.exponent)
  if x.significand % 2 = 0 then Shortest.lower x ≤ quarters ∧ quarters ≤ Shortest.upper x
  else Shortest.lower x < quarters ∧ quarters < Shortest.upper x

theorem four_mul_sub_two_le_lower (x : Binary64) :
    (4 * x.significand - 2 : ℚ) ≤ Shortest.lower x := by
  have h : 4 * x.significand ≤ Shortest.lower x + 2 := by
    unfold Shortest.lower
    split <;> omega
  have : (4 * x.significand : ℚ) ≤ Shortest.lower x + 2 := mod_cast h
  linarith

theorem upper_eq (x : Binary64) : (Shortest.upper x : ℚ) = 4 * x.significand + 2 := by
  simp [Shortest.upper]

namespace Covers

variable {x : Binary64} {q : ℚ}

/-- In units of its last place, a number is the integer that what it covers is rounded to. -/
theorem isRounded (h : x.Covers q) : IsRounded x.significand (q / 2 ^ x.exponent) := by
  have hlower := four_mul_sub_two_le_lower x
  have hupper := upper_eq x
  unfold Covers at h
  split at h
  · constructor
    · linarith [h.1]
    · linarith [h.2]
    · omega
  · constructor
    · linarith [h.1]
    · linarith [h.2]
    · intro
      constructor
      · linarith [h.1]
      · linarith [h.2]

/-- What a number covers lies below the power of two above the number. -/
theorem log_lt (hpos : 0 < q) (h : x.Covers q) : Int.log 2 q < 53 + x.exponent := by
  have hsignificand := x.canonical.1
  have hbits : leadingBit = 2 ^ 52 := rfl
  have hle : (x.significand + 1 : ℚ) ≤ 2 ^ 53 := by
    exact_mod_cast show x.significand + 1 ≤ 2 ^ 53 by omega
  have hupper := h.isRounded.upper
  rw [← Int.lt_zpow_iff_log_lt one_lt_two hpos, Nat.cast_ofNat, zpow_add₀ two_ne_zero,
    ← div_lt_iff₀ (by positivity)]
  norm_num at *
  linarith

/-- What a number covers and lies below its leading bit is close to a power of two, and is rounded
up to it with a carry. -/
theorem carries (hpos : 0 < q) (h : x.Covers q) (hexponent : x.exponent ≠ -1074)
    (hbelow : Int.log 2 q < 52 + x.exponent) :
    x.significand = leadingBit ∧ Int.log 2 q = 51 + x.exponent ∧
      IsRounded (2 * leadingBit) (q / 2 ^ (x.exponent - 1)) := by
  obtain ⟨-, hleast, -, hfull⟩ := x.canonical
  have hbits : leadingBit = 2 ^ 52 := rfl
  have hlt : q / 2 ^ x.exponent < 2 ^ 52 := by
    rw [← Int.lt_zpow_iff_log_lt one_lt_two hpos, Nat.cast_ofNat, zpow_add₀ two_ne_zero,
      ← div_lt_iff₀ (by positivity)] at hbelow
    exact_mod_cast hbelow
  have hpower : x.significand = leadingBit := by
    have hlower := h.isRounded.lower
    have : (x.significand : ℚ) < (2 ^ 52 + 1 : ℕ) := by
      push_cast
      linarith
    have := Nat.cast_lt.1 this
    omega
  have hnear : (2 ^ 53 - 1 / 2 : ℚ) ≤ 2 * (q / 2 ^ x.exponent) := by
    have heven : x.significand % 2 = 0 := by omega
    have hquarters : Shortest.lower x = 4 * 2 ^ 52 - 1 := by
      rw [Shortest.lower, if_pos ⟨hpower, by omega⟩]
      omega
    rw [Covers, if_pos heven, hquarters] at h
    norm_num at h
    linarith [h.1]
  have hlog : 51 + x.exponent ≤ Int.log 2 q := by
    rw [← Int.zpow_le_iff_le_log one_lt_two hpos, Nat.cast_ofNat, zpow_add₀ two_ne_zero,
      ← le_div_iff₀ (by positivity)]
    norm_num at *
    linarith
  have hdouble : q / 2 ^ (x.exponent - 1) = 2 * (q / 2 ^ x.exponent) := by
    rw [zpow_sub₀ two_ne_zero]
    field_simp
  refine ⟨hpower, by omega, ?_⟩
  rw [hdouble, hbits]
  constructor
  · push_cast
    linarith
  · push_cast
    linarith
  · omega

end Covers

/-- **What a number covers rounds to the number.** -/
theorem ofRatio?_of_covers {x : Binary64} {num den : Nat} (hnum : 0 < num) (hden : 0 < den)
    (h : x.Covers (num / den)) : ofRatio? x.negative num den = some x := by
  obtain ⟨hsignificand, hleast, -, -⟩ := x.canonical
  have hnumpos : (0 : ℚ) < num := Nat.cast_pos.2 hnum
  have hdenpos : (0 : ℚ) < den := Nat.cast_pos.2 hden
  have hpos : (0 : ℚ) < num / den := by positivity
  have htarget := targetExponent_eq hnum hden
  have hlt := h.log_lt hpos
  by_cases hsame : x.exponent = -1074 ∨ 52 + x.exponent ≤ Int.log 2 (num / den : ℚ)
  · have hk : targetExponent num den = x.exponent := by omega
    rw [ofRatio?_eq hden hk h.isRounded, if_neg (by omega), ofParts?_eq_some]
  · obtain ⟨hpower, hlog, hcarry⟩ := h.carries hpos (by omega) (by omega)
    have hk : targetExponent num den = x.exponent - 1 := by omega
    rw [ofRatio?_eq hden hk hcarry, if_pos rfl, Int.sub_add_cancel, ← hpower, ofParts?_eq_some]

/-! ## Decimals -/

/-- What a number other than zero covers is far inside the magnitudes that are settled at once. -/
theorem Covers.range {x : Binary64} {q : ℚ} (hx : x.significand ≠ 0) (h : x.Covers q) :
    10 ^ (-330 : ℤ) ≤ q ∧ q < 10 ^ (330 : ℤ) := by
  obtain ⟨hsignificand, hleast, hgreatest, -⟩ := x.canonical
  have hbits : leadingBit = 2 ^ 52 := rfl
  have hone : (1 : ℚ) ≤ x.significand := mod_cast Nat.one_le_iff_ne_zero.2 hx
  have hle : (x.significand + 1 : ℚ) ≤ 2 ^ 53 := by
    exact_mod_cast show x.significand + 1 ≤ 2 ^ 53 by omega
  have hpos : (0 : ℚ) < 2 ^ x.exponent := by positivity
  have hlower := h.isRounded.lower
  have hupper := h.isRounded.upper
  rw [le_div_iff₀ hpos] at hlower
  rw [div_le_iff₀ hpos] at hupper
  have hsmall : ((2 ^ 1075 : ℕ) : ℚ) ≤ (10 ^ 330 : ℕ) := Nat.cast_le.2 (by decide +kernel)
  have hlarge : ((2 ^ 1024 : ℕ) : ℚ) < (10 ^ 330 : ℕ) := Nat.cast_lt.2 (by decide +kernel)
  rw [Nat.cast_pow, Nat.cast_pow] at hsmall hlarge
  constructor
  · calc (10 : ℚ) ^ (-330 : ℤ) ≤ 2 ^ (-1075 : ℤ) := by
          rw [zpow_neg, zpow_neg]
          exact inv_anti₀ (by positivity) hsmall
      _ ≤ 2 ^ (x.exponent - 1) := zpow_le_zpow_right₀ one_le_two (by omega)
      _ = 1 / 2 * 2 ^ x.exponent := by
        rw [zpow_sub_one₀ two_ne_zero, mul_comm, one_div]
      _ ≤ (x.significand - 1 / 2) * 2 ^ x.exponent := by
        gcongr
        linarith
      _ ≤ q := hlower
  · calc q ≤ (x.significand + 1 / 2) * 2 ^ x.exponent := hupper
      _ ≤ 2 ^ (53 : ℤ) * 2 ^ x.exponent := by
        gcongr
        norm_num at *
        linarith
      _ = 2 ^ (53 + x.exponent) := (zpow_add₀ two_ne_zero _ _).symm
      _ ≤ 2 ^ (1024 : ℤ) := zpow_le_zpow_right₀ one_le_two (by omega)
      _ < 10 ^ (330 : ℤ) := hlarge

/-- **A decimal that a number covers is read as the number.** -/
theorem ofDecimal?_of_covers {x : Binary64} (hx : x.significand ≠ 0) {digits : Nat} {exponent : ℤ}
    (h : x.Covers (digits * 10 ^ exponent)) :
    ofDecimal? x.negative digits exponent = some x := by
  obtain ⟨hsmall, hlarge⟩ := h.range hx
  have hdigits : digits ≠ 0 := by
    rintro rfl
    rw [Nat.cast_zero, zero_mul] at hsmall
    exact absurd hsmall (not_le.2 (by positivity))
  have hten : (1 : ℚ) < 10 := by norm_num
  have hten0 : (10 : ℚ) ≠ 0 := by norm_num
  have hbelow : (digits : ℚ) < 10 ^ ((Nat.toDigits 10 digits).length : ℤ) := by
    exact_mod_cast Digits.lt_pow_length_toDigits digits
  have habove : (10 : ℚ) ^ ((Nat.toDigits 10 digits).length - 1 : ℤ) ≤ digits := by
    have := Digits.pow_length_toDigits_le hdigits
    have hlength := Nat.length_toDigits_pos (b := 10) (n := digits)
    rw [← Nat.cast_pred hlength]
    exact_mod_cast this
  have hge : ¬ ((Nat.toDigits 10 digits).length + exponent < -330) := by
    intro hlt
    have : (10 : ℚ) ^ (-330 : ℤ) < 10 ^ ((Nat.toDigits 10 digits).length + exponent) := by
      rw [zpow_add₀ hten0]
      exact hsmall.trans_lt (by gcongr)
    have := (zpow_lt_zpow_iff_right₀ hten).1 this
    omega
  have hle : ¬ (330 < (Nat.toDigits 10 digits).length + exponent) := by
    intro hlt
    have : (10 : ℚ) ^ ((Nat.toDigits 10 digits).length - 1 + exponent) < 10 ^ (330 : ℤ) := by
      rw [zpow_add₀ hten0]
      exact lt_of_le_of_lt (by gcongr) hlarge
    have := (zpow_lt_zpow_iff_right₀ hten).1 this
    omega
  have hratio : (((digits * Nat.pow 10 exponent.toNat : ℕ) : ℚ) /
      (Nat.pow 10 (-exponent).toNat : ℕ)) = digits * 10 ^ exponent := by
    rw [Nat.cast_mul, mul_div_assoc, pow_toNat_div_pow_toNat_neg (by decide), Nat.cast_ofNat]
  rw [ofDecimal?]
  simp only [hdigits, hge, hle, or_self, if_false]
  apply ofRatio?_of_covers
  · exact Nat.mul_pos (Nat.pos_of_ne_zero hdigits) (Nat.pow_pos (by decide))
  · exact Nat.pow_pos (by decide)
  · rw [hratio]
    exact h

end Binary64

end Bindery
