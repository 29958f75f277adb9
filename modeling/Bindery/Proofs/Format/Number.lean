import Bindery.Format.Placeholder
import Bindery.Proofs.Binary64.Nearest
import Bindery.Proofs.Format.Placeholder
import Bindery.Proofs.Json.Number

/-!
# Integers in number formats

A number format prints the binary64 number of a value, so an integer goes through the nearest such
number before it is printed.  That number is an integer as well, and without places it is printed
with all its digits.  The commas of a grouped format are the only other characters.  What is read
without the commas is then the integer nearest to the value among those that are binary64 numbers,
and it is the value itself if and only if the value is one of them
(`SpanFormat.apply_placed_ofInt`).

The plain placeholder prints the value from its own digits.  The two disagree on every integer that
needs more than 53 bits.
-/

namespace Bindery

/-- A text without its commas. -/
def withoutCommas (text : String) : String :=
  String.ofList (text.toList.filter (· != ','))

namespace NumberFormat

/-! ## Groups -/

theorem filter_group (digits : List Char) :
    (group digits).filter (· != ',') = digits.filter (· != ',') := by
  induction digits with
  | nil => rfl
  | cons digit digits ih =>
    rw [group]
    split <;> simp [List.filter_cons, ih]

/-- Grouping puts in commas and nothing else. -/
theorem filter_groupThousands (text : List Char) :
    (groupThousands text).filter (· != ',') = text.filter (· != ',') := by
  have hmagnitude : ∀ magnitude : List Char,
      (group (magnitude.takeWhile (· != '.')) ++ magnitude.dropWhile (· != '.')).filter
        (· != ',') = magnitude.filter (· != ',') := by
    intro magnitude
    rw [List.filter_append, filter_group, ← List.filter_append, List.takeWhile_append_dropWhile]
  unfold groupThousands
  split
  · rw [List.filter_cons, List.filter_cons, hmagnitude]
  · exact hmagnitude _

theorem filter_apply (format : NumberFormat) (x : Binary64) :
    (format.apply x).filter (· != ',') = (x.fixed format.places).filter (· != ',') := by
  rw [apply]
  split
  · exact filter_groupThousands _
  · rfl

/-! ## Names of formats -/

/-- What follows the letter of a format is digits, possibly with a plus sign. -/
theorem isDigit_of_places? {text : List Char} {places : Nat} (h : places? text = some places) :
    ∀ c ∈ text, c = '+' ∨ c.isDigit = true := by
  have hcount : ∀ {text}, count? text = some places → ∀ c ∈ withoutPlus text, c.isDigit = true := by
    intro text hcount
    simp only [count?] at hcount
    split at hcount
    · next hdigits =>
      rw [Bool.and_eq_true, Bool.and_eq_true, List.all_eq_true] at hdigits
      exact hdigits.1.2
    · cases hcount
  intro c hc
  cases text with
  | nil => cases hc
  | cons first text =>
    have hdigits := hcount h
    by_cases hplus : first = '+'
    · subst hplus
      exact (List.mem_cons.1 hc).imp id (hdigits c)
    · rw [withoutPlus] at hdigits
      · exact .inr (hdigits c hc)
      · simpa using hplus

/-- The brace that closes a placeholder is not in the name of a format. -/
theorem ne_brace_of_ofText? {spec : List Char} {format : NumberFormat}
    (h : ofText? spec = some format) : ∀ c ∈ spec, c ≠ '\x7d' := by
  have hplaces : ∀ {text : List Char} {named : ℕ → NumberFormat},
      (places? text).map named = some format → ∀ c ∈ text, c ≠ '\x7d' := by
    rintro text named hnamed c hc rfl
    obtain ⟨places, hplaces, -⟩ := Option.map_eq_some_iff.1 hnamed
    exact absurd (isDigit_of_places? hplaces _ hc) (by decide)
  cases spec with
  | nil => cases h
  | cons first text =>
    have hfirst : first ≠ '\x7d' := by
      rintro rfl
      simp [ofText?, isPattern] at h
    rw [ofText?] at h
    split at h
    · exact List.forall_mem_cons.2 ⟨hfirst, hplaces h⟩
    split at h
    · exact List.forall_mem_cons.2 ⟨hfirst, hplaces h⟩
    split at h
    · next hpattern =>
      rw [isPattern, Bool.and_eq_true, List.all_eq_true] at hpattern
      rintro c hc rfl
      exact absurd (hpattern.2 _ hc) (by decide)
    · cases h

end NumberFormat

/-! ## Numbers without places -/

namespace Binary64

/-- Without places an integer is printed with its digits. -/
theorem fixed_zero_eq {x : Binary64} {r : ℤ} (hnegative : x.negative = decide (r < 0))
    (hvalue : Shortest.magnitude x = r.natAbs) : x.fixed 0 = (toString r).toList := by
  have hunits : x.units 0 = r.natAbs := by
    refine roundHalfEven_eq x.denominator_pos ?_
    rw [Nat.pow_eq, pow_zero, mul_one, numerator_div_denominator, hvalue]
    exact IsRounded.natCast _
  rw [Json.toList_toString_int, fixed, hunits, fixedDigits, if_pos rfl, hnegative]

/-- **What an integer is printed as** without places. -/
theorem fixed_ofInt {n : ℤ} (hn : Json.Number.IsWord n) :
    ∃ r : ℤ, (ofInt n).value = r ∧ (ofInt n).fixed 0 = (toString r).toList := by
  obtain ⟨hnegative, r, hzero, hmagnitude⟩ := magnitude_ofInt hn
  obtain ⟨s, hsign, hs⟩ : ∃ s : ℤ, decide (s < 0) = decide (n < 0) ∧ s.natAbs = r := by
    obtain hlt | hge := lt_or_ge n 0
    · exact ⟨-r, decide_eq_decide.2 (by omega), by omega⟩
    · exact ⟨r, decide_eq_decide.2 (by omega), by omega⟩
  rw [← hsign] at hnegative
  rw [← hs] at hmagnitude
  exact ⟨s, value_of_magnitude hnegative hmagnitude, fixed_zero_eq hnegative hmagnitude⟩

end Binary64

/-- An integer is printed without commas. -/
theorem filter_toString (n : ℤ) :
    (toString n).toList.filter (· != ',') = (toString n).toList := by
  have hdigits : ∀ c ∈ Nat.toDigits 10 n.natAbs, (c != ',') = true := by
    intro c hc
    have := Digits.isDigit_toDigits c hc
    rw [bne_iff_ne]
    rintro rfl
    exact absurd this (by decide)
  rw [Json.toList_toString_int]
  split
  · rw [List.filter_cons_of_pos (by decide), List.filter_eq_self.2 hdigits]
  · exact List.filter_eq_self.2 hdigits

namespace SpanFormat

/-- The format that is one placeholder with a number format. -/
def placed (spec : List Char) : String :=
  String.ofList ('\x7b' :: '0' :: ':' :: spec ++ ['\x7d'])

theorem pieces_placed {spec : List Char} (hspec : ∀ c ∈ spec, c ≠ '\x7d') :
    pieces (placed spec).toList = [.placeholder (some spec)] := by
  have hread := pieces_closed_append (fun hmem => hspec _ hmem rfl) []
  rw [pieces] at hread
  rw [placed, String.toList_ofList]
  exact hread

/-- A number in a placeholder is printed in the format of the placeholder. -/
theorem apply_placed {spec : List Char} {format : NumberFormat}
    (hspec : NumberFormat.ofText? spec = some format) (n : Json.Number) :
    apply (placed spec) (.number n) = some (String.ofList (format.apply n.toBinary64)) := by
  rw [apply, Json.plainText?, Option.map_some,
    pieces_placed (NumberFormat.ne_brace_of_ofText? hspec), List.flatMap_singleton, Json.binary64?]
  simp only [fill, hspec]

section Integer

variable {n : ℤ} {spec : List Char} {grouped : Bool}

/-- Without its commas, an integer in a number format without places is the value of its number. -/
theorem exists_apply_placed_ofInt (hn : Json.Number.IsWord n)
    (hspec : NumberFormat.ofText? spec = some ⟨0, grouped⟩) :
    ∃ text, apply (placed spec) (.ofInt n) = some text ∧
      ∃ r : ℤ, withoutCommas text = toString r ∧ (Binary64.ofInt n).value = r := by
  obtain ⟨r, hvalue, hfixed⟩ := Binary64.fixed_ofInt hn
  refine ⟨_, apply_placed hspec (.integer n), r, ?_, hvalue⟩
  rw [withoutCommas, String.toList_ofList, NumberFormat.filter_apply, Json.Number.toBinary64,
    hfixed, filter_toString, String.ofList_toList]

/-- **An integer in a number format without places** is printed as the nearest integer that is a
binary64 number, up to the commas of the groups, and so as itself if and only if it is one. -/
theorem apply_placed_ofInt (hn : Json.Number.IsWord n)
    (hspec : NumberFormat.ofText? spec = some ⟨0, grouped⟩) :
    ∃ text, apply (placed spec) (.ofInt n) = some text ∧
      apply plain (.ofInt n) = some (toString n) ∧
      (∃ r : ℤ, withoutCommas text = toString r ∧ Binary64.IsExact r ∧
        ∀ x : Binary64, |(r : ℚ) - n| ≤ |x.value - n|) ∧
      (withoutCommas text = toString n ↔ Binary64.IsExact n) := by
  obtain ⟨text, happly, r, htext, hvalue⟩ := exists_apply_placed_ofInt hn hspec
  refine ⟨text, happly, apply_plain _, ⟨r, htext, ⟨_, hvalue⟩, ?nearest⟩, ?exact⟩
  case nearest =>
    intro x
    rw [← hvalue]
    exact Binary64.nearest_ofInt hn x
  case exact =>
    rw [htext]
    constructor
    · intro heq
      rw [← Json.eq_of_toString_int_eq heq]
      exact ⟨_, hvalue⟩
    · intro hexact
      rw [Binary64.eq_of_value_ofInt hn hexact hvalue]

/-- The greatest word is rounded up to a power of two. -/
theorem apply_placed_greatestWord :
    let n : ℤ := 18446744073709551615
    Json.Number.IsWord n ∧ NumberFormat.ofText? ['N', '0'] = some ⟨0, true⟩ ∧
      apply (placed ['N', '0']) (.ofInt n) = some "18,446,744,073,709,551,616" ∧
      ¬ Binary64.IsExact n := by
  intro n
  have hn : Json.Number.IsWord n := by decide
  have hspec : NumberFormat.ofText? ['N', '0'] = some ⟨0, true⟩ := by decide
  have hprinted : apply (placed ['N', '0']) (.ofInt n) = some "18,446,744,073,709,551,616" := by
    rw [Json.ofInt, apply_placed hspec]
    decide
  obtain ⟨text, htext, -, -, hiff⟩ := apply_placed_ofInt hn hspec
  refine ⟨hn, hspec, hprinted, fun hexact => ?_⟩
  rw [hprinted, Option.some_inj] at htext
  rw [← hiff, ← htext] at hexact
  exact absurd hexact (by decide)

/-- The first integer that is not printed as itself. -/
theorem apply_placed_loses_digit :
    Json.Number.IsWord 9007199254740993 ∧ NumberFormat.ofText? ['0'] = some ⟨0, false⟩ ∧
      placed ['0'] = "\x7b0:0\x7d" ∧
      apply (placed ['0']) (.ofInt 9007199254740993) = some "9007199254740992" ∧
      apply plain (.ofInt 9007199254740993) = some "9007199254740993" := by
  have hspec : NumberFormat.ofText? ['0'] = some ⟨0, false⟩ := by decide
  refine ⟨by decide, hspec, by decide, ?_, ?_⟩
  · rw [Json.ofInt, apply_placed hspec]
    decide
  · rw [apply_plain]
    rfl

/-- Integers up to `2 ^ 53` are printed as themselves. -/
theorem apply_placed_of_natAbs_le (hle : n.natAbs ≤ 2 ^ 53)
    (hspec : NumberFormat.ofText? spec = some ⟨0, grouped⟩) :
    ∃ text, apply (placed spec) (.ofInt n) = some text ∧ withoutCommas text = toString n := by
  have hn : Json.Number.IsWord n := by
    unfold Json.Number.IsWord
    omega
  obtain ⟨text, happly, r, htext, hvalue⟩ := exists_apply_placed_ofInt hn hspec
  have hexact := Binary64.isExact_of_natAbs_le hle
  exact ⟨text, happly, by rw [htext, Binary64.eq_of_value_ofInt hn hexact hvalue]⟩

end Integer

end SpanFormat

end Bindery
