import Mathlib.Algebra.Group.Nat.Defs
import Mathlib.Tactic.ByContra
import Bindery.Digits

/-!
# Digits of a number

The digits of a natural number are written without a zero in front, and their value is the number.
The number of digits bounds the number between two powers of ten, one apart.
-/

namespace Bindery

namespace Digits

theorem value_append (before after : List Char) :
    value (before ++ after) = 10 ^ after.length * value before + value after := by
  change Nat.ofDigitChars 10 _ 0 = _ * Nat.ofDigitChars 10 _ 0 + Nat.ofDigitChars 10 _ 0
  rw [Nat.ofDigitChars_append, Nat.ofDigitChars_eq_ofDigitChars_zero]

@[simp] theorem value_replicate_zero (n : Nat) : value (List.replicate n '0') = 0 := by
  change Nat.ofDigitChars 10 _ 0 = 0
  rw [Nat.ofDigitChars_replicate_zero, Nat.mul_zero]

@[simp] theorem value_toDigits (n : Nat) : value (Nat.toDigits 10 n) = n :=
  Nat.ofDigitChars_ten_toDigits

theorem isDigit_toDigits {n : Nat} : ∀ c ∈ Nat.toDigits 10 n, c.isDigit = true :=
  fun _ => Nat.isDigit_of_mem_toDigits (by decide) (by decide)

/-- A number other than zero has a leading digit other than zero. -/
theorem exists_toDigits_eq_cons {n : Nat} (hn : n ≠ 0) :
    ∃ digit more, Nat.toDigits 10 n = digit :: more ∧ digit ≠ '0' := by
  have hsingle : ∀ digit < 10, digit ≠ 0 → digit.digitChar ≠ '0' := by decide
  induction n using Nat.strongRecOn with
  | ind n ih =>
    rw [Nat.toDigits_eq_if (by decide)]
    split
    · next hlt => exact ⟨n.digitChar, [], rfl, hsingle n hlt hn⟩
    · obtain ⟨digit, more, hdigits, hdigit⟩ := ih (n / 10) (by omega) (by omega)
      exact ⟨digit, more ++ [(n % 10).digitChar], by rw [hdigits, List.cons_append], hdigit⟩

theorem lt_pow_length_toDigits (n : Nat) : n < 10 ^ (Nat.toDigits 10 n).length :=
  (Nat.length_toDigits_le_iff (by decide) Nat.length_toDigits_pos).1 (Nat.le_refl _)

theorem pow_length_toDigits_le {n : Nat} (hn : n ≠ 0) :
    10 ^ ((Nat.toDigits 10 n).length - 1) ≤ n := by
  by_contra hlt
  rw [Nat.not_le] at hlt
  have hlength := Nat.length_toDigits_pos (b := 10) (n := n)
  obtain hone | hmore : (Nat.toDigits 10 n).length = 1 ∨ 0 < (Nat.toDigits 10 n).length - 1 := by
    omega
  · rw [hone, Nat.sub_self, Nat.pow_zero] at hlt
    omega
  · have := (Nat.length_toDigits_le_iff (by decide) hmore).2 hlt
    omega

end Digits

end Bindery
