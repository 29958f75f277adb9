import Mathlib.Data.List.Induction
import Mathlib.Data.List.Shortlex
import Bindery.ListModel

/-!
# Alphabetic numerals

Letters as ordinals are digits in base twenty-six that run from one to twenty-six, not from zero to
twenty-five.  There is no zero, hence no leading zero, and every text of capitals is the numeral of
exactly one number: what `Z` leaves over is not a carry but a digit of its own.  So a number is
divided after one has been taken from it, and putting the last digit back is `26 * q + (r + 1)`.

* `Numeral.alphabeticValue`: the number that a numeral is read as.
* `Numeral.alphabeticValue_alphabetic` and `Numeral.alphabetic_alphabeticValue`: reading and writing
  undo each other.
* `Numeral.shortlex_alphabetic`: later numerals are longer, or as long and later in the alphabet.
  Two numbers differ in what stands before their last letters, which is the order of the quotients,
  or only in the last letters.
* `Numeral.alphabetic_counts`: all of it together, and that no two ordinals have the same marker in
  a list that is numbered by capitals or by small letters.
-/

namespace Bindery

namespace Numeral

/-! ## Letters -/

/-- What a capital letter counts as a digit: `A` is one and `Z` is twenty-six. -/
def letterValue (c : Char) : ℕ :=
  c.toNat - 'A'.toNat + 1

theorem letterValue_letter : ∀ place < 26, letterValue (letter place) = place + 1 := by
  decide

theorem isUpper_letter : ∀ place < 26, (letter place).isUpper = true := by
  decide

theorem letter_lt_letter : ∀ place < 26, ∀ before < place, letter before < letter place := by
  decide

/-- Every capital has a place in the alphabet. -/
theorem exists_letter_eq {c : Char} (h : c.isUpper = true) : ∃ place < 26, letter place = c := by
  have hbetween : 'A'.val ≤ c.val ∧ c.val ≤ 'Z'.val := of_decide_eq_true h
  have hfirst : 'A'.toNat ≤ c.toNat := UInt32.le_iff_toNat_le.1 hbetween.1
  have hlast : c.toNat ≤ 'A'.toNat + 25 := UInt32.le_iff_toNat_le.1 hbetween.2
  refine ⟨c.toNat - 'A'.toNat, by omega, ?_⟩
  rw [letter, Nat.add_sub_cancel' hfirst, Char.ofNat_toNat]

/-! ## Reading -/

/-- The number that letters are read as in base twenty-six. -/
def alphabeticValue (letters : List Char) : ℕ :=
  letters.foldl (fun n c => 26 * n + letterValue c) 0

theorem alphabeticValue_append_singleton (letters : List Char) (c : Char) :
    alphabeticValue (letters ++ [c]) = 26 * alphabeticValue letters + letterValue c := by
  rw [alphabeticValue, List.foldl_append, List.foldl_cons, List.foldl_nil, alphabeticValue]

@[simp] theorem alphabetic_zero : alphabetic 0 = [] := by
  rw [alphabetic]

theorem alphabetic_succ (n : ℕ) :
    alphabetic (n + 1) = alphabetic (n / 26) ++ [letter (n % 26)] := by
  rw [alphabetic]

/-- **A numeral is read as its number.** -/
theorem alphabeticValue_alphabetic (n : ℕ) : alphabeticValue (alphabetic n) = n := by
  induction n using alphabetic.induct with
  | case1 => rw [alphabetic_zero, alphabeticValue, List.foldl_nil]
  | case2 n ih =>
    rw [alphabetic_succ, alphabeticValue_append_singleton, ih,
      letterValue_letter _ (Nat.mod_lt n (by decide)), ← Nat.add_assoc, Nat.div_add_mod]

theorem isUpper_of_mem_alphabetic {n : ℕ} : ∀ c ∈ alphabetic n, c.isUpper = true := by
  induction n using alphabetic.induct with
  | case1 => simp
  | case2 n ih =>
    rw [alphabetic_succ, List.forall_mem_append, List.forall_mem_singleton]
    exact ⟨ih, isUpper_letter _ (Nat.mod_lt n (by decide))⟩

/-- **Every text of capitals is a numeral**, that of the number that it is read as. -/
theorem alphabetic_alphabeticValue {letters : List Char} (h : ∀ c ∈ letters, c.isUpper = true) :
    alphabetic (alphabeticValue letters) = letters := by
  induction letters using List.reverseRecOn with
  | nil => rw [alphabeticValue, List.foldl_nil, alphabetic_zero]
  | append_singleton letters c ih =>
    rw [List.forall_mem_append, List.forall_mem_singleton] at h
    obtain ⟨place, hplace, rfl⟩ := exists_letter_eq h.2
    rw [alphabeticValue_append_singleton, letterValue_letter place hplace, ← Nat.add_assoc,
      alphabetic_succ, Nat.mul_add_mod, Nat.mod_eq_of_lt hplace, Nat.mul_add_div (by decide),
      Nat.div_eq_of_lt hplace, Nat.add_zero, ih h.1]

theorem alphabetic_injective : Function.Injective alphabetic :=
  Function.LeftInverse.injective alphabeticValue_alphabetic

/-! ## Order -/

/-- Which of two lists of one length comes first does not depend on what follows them. -/
theorem lex_append {α : Type} {r : α → α → Prop} {s t : List α} (h : List.Lex r s t)
    (hlength : s.length = t.length) (u v : List α) : List.Lex r (s ++ u) (t ++ v) := by
  induction h with
  | nil => cases hlength
  | cons _ ih => exact .cons (ih (Nat.succ.inj hlength))
  | rel hlt => exact .rel hlt

/-- A list that comes before another one in the order by length still does so with one more item on
either side. -/
theorem shortlex_append_singleton {α : Type} {r : α → α → Prop} {s t : List α}
    (h : List.Shortlex r s t) (a b : α) : List.Shortlex r (s ++ [a]) (t ++ [b]) := by
  obtain hshorter | ⟨hlength, hlex⟩ := List.shortlex_def.1 h
  · apply List.Shortlex.of_length_lt
    rw [List.length_append, List.length_append]
    exact Nat.add_lt_add_right hshorter 1
  · apply List.Shortlex.of_lex
    · rw [List.length_append, List.length_append, hlength]
      rfl
    · exact lex_append hlex hlength [a] [b]

/-- **Numerals are in the order of their numbers**, a shorter one before a longer one and those of
one length as in a dictionary. -/
theorem shortlex_alphabetic {m n : ℕ} (h : m < n) :
    List.Shortlex (· < ·) (alphabetic m) (alphabetic n) := by
  induction n using alphabetic.induct generalizing m with
  | case1 => exact absurd h (Nat.not_lt_zero m)
  | case2 n ih =>
    rw [alphabetic_succ]
    cases m with
    | zero =>
      rw [alphabetic_zero]
      exact .of_length_lt (by simp)
    | succ m =>
      have hlt : m < n := Nat.lt_of_succ_lt_succ h
      rw [alphabetic_succ]
      obtain hquotient | hsame := (Nat.div_le_div_right hlt.le : m / 26 ≤ n / 26).lt_or_eq
      · exact shortlex_append_singleton (ih hquotient) _ _
      · rw [hsame]
        apply List.Shortlex.append_left
        rw [List.shortlex_singleton_iff]
        exact letter_lt_letter _ (Nat.mod_lt n (by decide)) _ (by omega)

theorem shortlex_alphabetic_iff {m n : ℕ} :
    List.Shortlex (· < ·) (alphabetic m) (alphabetic n) ↔ m < n := by
  refine ⟨fun h => ?_, shortlex_alphabetic⟩
  obtain hlt | rfl | hgt := Nat.lt_trichotomy m n
  · exact hlt
  · exact absurd h (asymm h)
  · exact absurd h (asymm (shortlex_alphabetic hgt))

/-! ## Markers -/

theorem toUpper_toLower_letter : ∀ place < 26, (letter place).toLower.toUpper = letter place := by
  decide

/-- Capitals are read off their small letters. -/
theorem map_toUpper_map_toLower {letters : List Char} (h : ∀ c ∈ letters, c.isUpper = true) :
    (letters.map Char.toLower).map Char.toUpper = letters := by
  rw [List.map_map]
  refine (List.map_congr_left fun c hc => ?_).trans (List.map_id letters)
  obtain ⟨place, hplace, rfl⟩ := exists_letter_eq (h c hc)
  exact toUpper_toLower_letter place hplace

/-- Different numerals of capitals make different markers, and so do their small letters. -/
theorem marker_injective {numeral : ℕ → List Char} (hinjective : Function.Injective numeral)
    (hcapitals : ∀ n, ∀ c ∈ numeral n, c.isUpper = true) :
    (Function.Injective fun n => String.ofList (numeral n ++ ['.'])) ∧
      Function.Injective fun n => String.ofList ((numeral n).map Char.toLower ++ ['.']) := by
  constructor
  · intro m n h
    exact hinjective (List.append_cancel_right (String.ofList_injective h))
  · intro m n h
    have hsmall := List.append_cancel_right (String.ofList_injective h)
    apply hinjective
    rw [← map_toUpper_map_toLower (hcapitals m), hsmall, map_toUpper_map_toLower (hcapitals n)]

/-- **Alphabetic numerals** are the texts of capitals, each the numeral of the one number that it is
read as, and they stand in the order of their numbers: shorter ones first, and those of one length
as in a dictionary.  So no two entries of a list that is numbered by letters, large or small, have
the same marker. -/
theorem alphabetic_counts :
    (∀ n, alphabeticValue (alphabetic n) = n) ∧
      (∀ letters, alphabetic (alphabeticValue letters) = letters ↔
        ∀ c ∈ letters, c.isUpper = true) ∧
      (∀ m n, List.Shortlex (· < ·) (alphabetic m) (alphabetic n) ↔ m < n) ∧
      Function.Injective ListModel.upperAlphabet.marker ∧
      Function.Injective ListModel.lowerAlphabet.marker := by
  refine ⟨alphabeticValue_alphabetic, fun letters => ⟨fun h => ?_, alphabetic_alphabeticValue⟩,
    fun m n => shortlex_alphabetic_iff, ?_⟩
  · rw [← h]
    exact isUpper_of_mem_alphabetic
  · exact marker_injective alphabetic_injective fun _ => isUpper_of_mem_alphabetic

example : [26, 27, 52, 53, 702, 703].map alphabetic =
    [['Z'], ['A', 'A'], ['A', 'Z'], ['B', 'A'], ['Z', 'Z'], ['A', 'A', 'A']] := by
  cbv

end Numeral

end Bindery
