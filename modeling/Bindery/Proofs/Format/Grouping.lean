import Bindery.Proofs.Format.Number

/-!
# Groups of three digits

A grouped format puts a comma wherever the number of digits that are still to come is a multiple of
three.  Counting what is to come is counting from the right, so the pieces between the commas have
three digits each, except for the first one, which has what is left over, and at least one digit,
because there is no comma in front of the first digit.

Only the digits before the point are grouped.  A number in a fixed count of places is a sign, digits
and a fraction (`NumberFormat.exists_fixed_eq`), and in the same count of places the grouped text
has the same sign and the same fraction (`NumberFormat.groupThousands_append`).  A number that is
rounded up to one more digit is no case of its own, since it is rounded before it is grouped.

* `NumberFormat.IsGrouped`: three digits in a piece, and one to three in the first.
* `NumberFormat.exists_group_eq`: the pieces of grouped digits.
* `SpanFormat.apply_placed_grouped`: a number in a grouped format beside the same number in the
  format without groups.
-/

namespace Bindery

namespace NumberFormat

/-! ## Pieces -/

/-- Whether pieces have three digits each, except for the first one, which has one to three. -/
def IsGrouped : List (List Char) → Prop
  | [] => False
  | first :: pieces => (1 ≤ first.length ∧ first.length ≤ 3) ∧ ∀ piece ∈ pieces, piece.length = 3

theorem IsGrouped.ne_nil {pieces : List (List Char)} (h : IsGrouped pieces) : pieces ≠ [] := by
  rintro rfl
  exact h

/-- The length of the first piece is the number of digits up to a multiple of three. -/
theorem length_flatten_mod {first : List Char} {pieces : List (List Char)}
    (h : ∀ piece ∈ pieces, piece.length = 3) :
    (first :: pieces).flatten.length % 3 = first.length % 3 := by
  have hpieces : pieces.map List.length = List.replicate pieces.length 3 :=
    List.map_eq_replicate_iff.2 h
  rw [List.flatten_cons, List.length_append, List.length_flatten, hpieces,
    List.sum_replicate_nat, Nat.add_mul_mod_self_right]

/-- **Grouped digits** are pieces of three digits from the right, with a comma between any two. -/
theorem exists_group_eq {digits : List Char} (hne : digits ≠ []) :
    ∃ pieces, group digits = [','].intercalate pieces ∧ pieces.flatten = digits ∧
      IsGrouped pieces := by
  induction digits with
  | nil => exact absurd rfl hne
  | cons digit digits ih =>
    obtain rfl | hmore := eq_or_ne digits []
    · exact ⟨[[digit]], rfl, rfl, ⟨by simp, List.forall_mem_nil _⟩⟩
    · obtain ⟨_ | ⟨first, pieces⟩, hgroup, hflatten, hgrouped⟩ := ih hmore
      · exact hgrouped.elim
      obtain ⟨⟨hfirst, hlast⟩, hpieces⟩ := hgrouped
      have hlength : digits.length % 3 = first.length % 3 := by
        rw [← hflatten, length_flatten_mod hpieces]
      rw [group, hgroup]
      by_cases hcomma : digits.length % 3 = 0
      · -- the pieces so far are full, and the digit begins a piece of its own
        rw [if_pos ⟨hmore, hcomma⟩]
        refine ⟨[digit] :: first :: pieces, ?_, by rw [List.flatten_cons, hflatten]; rfl,
          by simp, List.forall_mem_cons.2 ⟨by omega, hpieces⟩⟩
        rw [List.intercalate_cons_cons]
        rfl
      · rw [if_neg fun h => hcomma h.2]
        refine ⟨(digit :: first) :: pieces, ?_, by rw [← hflatten]; rfl,
          ⟨by simp, by rw [List.length_cons]; omega⟩, hpieces⟩
        cases pieces with
        | nil => rfl
        | cons piece pieces => rw [List.intercalate_cons_cons, List.intercalate_cons_cons]; rfl

/-- The commas are where the pieces end, if there are none among the digits. -/
theorem splitOn_group {digits : List Char} (hne : digits ≠ []) (hdigits : ',' ∉ digits) :
    IsGrouped ((group digits).splitOn ',') ∧ ((group digits).splitOn ',').flatten = digits := by
  obtain ⟨pieces, hgroup, hflatten, hgrouped⟩ := exists_group_eq hne
  have hsplit : (group digits).splitOn ',' = pieces := by
    rw [hgroup]
    refine List.splitOn_intercalate ',' (fun piece hpiece hcomma => hdigits ?_) hgrouped.ne_nil
    rw [← hflatten]
    exact List.mem_flatten.2 ⟨piece, hpiece, hcomma⟩
  rw [hsplit]
  exact ⟨hgrouped, hflatten⟩

end NumberFormat

/-! ## Numbers with places -/

/-- A character that is no digit does not stand among digits. -/
theorem notMem_of_isDigit {digits : List Char} (h : ∀ c ∈ digits, c.isDigit = true) {c : Char}
    (hc : c.isDigit = false) : c ∉ digits := by
  intro hmem
  rw [h c hmem] at hc
  cases hc

namespace Binary64

/-- What follows the digits before the point: nothing if there are no places, and otherwise the
point and a digit for each place. -/
def IsFraction (places : ℕ) (fraction : List Char) : Prop :=
  if places = 0 then fraction = []
  else ∃ digits, fraction = '.' :: digits ∧ digits.length = places ∧
    ∀ c ∈ digits, c.isDigit = true

/-- The sign of a number, which is written only if it is negative. -/
def signText (x : Binary64) : List Char :=
  if x.negative then ['-'] else []

/-- **A number with places** is written as its sign, digits, and the fraction. -/
theorem exists_fixed_eq (x : Binary64) (places : ℕ) :
    ∃ whole fraction, x.fixed places = x.signText ++ (whole ++ fraction) ∧ whole ≠ [] ∧
      (∀ c ∈ whole, c.isDigit = true) ∧ IsFraction places fraction := by
  have hwhole := Json.isWhole_toDigits (x.units places)
  have hsign (magnitude : List Char) :
      (if x.negative then '-' :: magnitude else magnitude) = x.signText ++ magnitude := by
    rw [signText]
    split <;> rfl
  rw [fixed, hsign, fixedDigits]
  obtain rfl | hplaces := Nat.eq_zero_or_pos places
  · refine ⟨Nat.toDigits 10 (x.units 0), [], ?_, Nat.toDigits_ne_nil, hwhole.isDigit, rfl⟩
    rw [if_pos rfl, List.append_nil]
  · obtain ⟨whole, fraction, hpointed, hbefore, hafter, hlength, -⟩ :=
      Json.exists_pointed_eq hwhole places
    have hne : fraction ≠ [] := List.ne_nil_of_length_pos (hlength ▸ hplaces)
    refine ⟨whole, '.' :: fraction, ?_, ?_, hbefore.isDigit, ?_⟩
    · rw [if_neg hplaces.ne', hpointed, if_neg (by simpa using hne)]
    · obtain ⟨digit, more, hcons, -⟩ := hbefore.leading
      exact hcons ▸ List.cons_ne_nil digit more
    · rw [IsFraction, if_neg hplaces.ne']
      exact ⟨fraction, rfl, hlength, hafter⟩

/-- No comma is written for a number. -/
theorem comma_notMem_fixed (x : Binary64) (places : ℕ) : ',' ∉ x.fixed places := by
  obtain ⟨whole, fraction, hfixed, -, hwhole, hfraction⟩ := x.exists_fixed_eq places
  rw [hfixed, List.mem_append, List.mem_append, not_or, not_or]
  refine ⟨?sign, notMem_of_isDigit hwhole (by decide), ?fraction⟩
  case sign =>
    rw [signText]
    split <;> decide
  case fraction =>
    rw [IsFraction] at hfraction
    split at hfraction
    · subst hfraction
      exact List.not_mem_nil
    · obtain ⟨digits, rfl, -, hdigits⟩ := hfraction
      rw [List.mem_cons, not_or]
      exact ⟨by decide, notMem_of_isDigit hdigits (by decide)⟩

end Binary64

namespace NumberFormat

open Binary64 (IsFraction)

/-- **Grouping leaves the sign and the fraction alone.** -/
theorem groupThousands_append (x : Binary64) {whole fraction : List Char} {places : ℕ}
    (hne : whole ≠ []) (hwhole : ∀ c ∈ whole, c.isDigit = true)
    (hfraction : IsFraction places fraction) :
    groupThousands (x.signText ++ (whole ++ fraction)) =
      x.signText ++ (group whole ++ fraction) := by
  have hbefore : ∀ c ∈ whole, (c != '.') = true := by
    intro c hc
    rw [bne_iff_ne]
    exact ne_of_mem_of_not_mem hc (notMem_of_isDigit hwhole (by decide))
  have hafter : fraction.takeWhile (· != '.') = [] ∧ fraction.dropWhile (· != '.') = fraction := by
    rw [IsFraction] at hfraction
    split at hfraction
    · subst hfraction
      exact ⟨rfl, rfl⟩
    · obtain ⟨digits, rfl, -⟩ := hfraction
      exact ⟨rfl, rfl⟩
  have hmagnitude : group ((whole ++ fraction).takeWhile (· != '.')) ++
      (whole ++ fraction).dropWhile (· != '.') = group whole ++ fraction := by
    rw [List.takeWhile_append_of_pos hbefore, List.dropWhile_append_of_pos hbefore, hafter.1,
      hafter.2, List.append_nil]
  rw [Binary64.signText]
  split
  · exact congrArg ('-' :: ·) hmagnitude
  · obtain ⟨digit, more, rfl⟩ := List.exists_cons_of_ne_nil hne
    have hminus : digit ≠ '-' :=
      ne_of_mem_of_not_mem List.mem_cons_self (notMem_of_isDigit hwhole (by decide))
    rw [List.nil_append, List.nil_append, groupThousands]
    · exact hmagnitude
    · simpa using hminus

/-- Every count of places has a format with groups and one without. -/
theorem exists_ofText?_eq (format : NumberFormat) : ∃ spec, ofText? spec = some format := by
  obtain ⟨places, grouped⟩ := format
  refine ⟨(if grouped then ['#', ','] else ['#']) ++ '.' :: List.replicate places '0', ?_⟩
  cases grouped <;> simp [ofText?, isPattern, ofPattern]

end NumberFormat

namespace SpanFormat

open NumberFormat (IsGrouped)

/-- **A number in a grouped format** is the number in the format with the same places and without
groups, with commas among the digits before the point.  Its sign and its fraction are the same.  The
commas leave pieces of three digits, and one to three before the first comma; without them the two
texts are the same. -/
theorem apply_placed_grouped {spec plainSpec : List Char} {places : ℕ}
    (hspec : NumberFormat.ofText? spec = some ⟨places, true⟩)
    (hplain : NumberFormat.ofText? plainSpec = some ⟨places, false⟩) (n : Json.Number) :
    ∃ sign whole grouped fraction : List Char,
      apply (placed plainSpec) (.number n) =
        some (String.ofList (sign ++ (whole ++ fraction))) ∧
      apply (placed spec) (.number n) = some (String.ofList (sign ++ (grouped ++ fraction))) ∧
      sign = (if n.toBinary64.negative then ['-'] else []) ∧
      (whole ≠ [] ∧ ∀ c ∈ whole, c.isDigit = true) ∧
      Binary64.IsFraction places fraction ∧
      IsGrouped (grouped.splitOn ',') ∧ (grouped.splitOn ',').flatten = whole ∧
      withoutCommas (String.ofList (sign ++ (grouped ++ fraction))) =
        String.ofList (sign ++ (whole ++ fraction)) := by
  obtain ⟨whole, fraction, hfixed, hne, hwhole, hfraction⟩ :=
    n.toBinary64.exists_fixed_eq places
  obtain ⟨hpieces, hflatten⟩ :=
    NumberFormat.splitOn_group hne (notMem_of_isDigit hwhole (c := ',') (by decide))
  have hgrouped := NumberFormat.groupThousands_append n.toBinary64 hne hwhole hfraction
  refine ⟨n.toBinary64.signText, whole, NumberFormat.group whole, fraction, ?_, ?_, rfl,
    ⟨hne, hwhole⟩, hfraction, hpieces, hflatten, ?_⟩
  · rw [apply_placed hplain, NumberFormat.apply, hfixed]
    rfl
  · rw [apply_placed hspec, NumberFormat.apply, hfixed, ← hgrouped]
    rfl
  · have hcommas : ∀ c ∈ n.toBinary64.fixed places, (c != ',') = true := by
      intro c hc
      rw [bne_iff_ne]
      exact ne_of_mem_of_not_mem hc (n.toBinary64.comma_notMem_fixed places)
    rw [withoutCommas, String.toList_ofList, ← hgrouped, NumberFormat.filter_groupThousands,
      ← hfixed, List.filter_eq_self.2 hcommas]

/-- A number of six digits before the point, negative, that is rounded to one of seven. -/
theorem apply_placed_roundedMillion :
    let n : Json.Number := .float ⟨true, 31999999 * 2 ^ 28, -33, by decide⟩
    NumberFormat.ofText? ['N', '1'] = some ⟨1, true⟩ ∧
      NumberFormat.ofText? ['0', '.', '0'] = some ⟨1, false⟩ ∧
      n.text = "-999999.96875" ∧
      apply (placed ['N', '1']) (.number n) = some "-1,000,000.0" ∧
      apply (placed ['0', '.', '0']) (.number n) = some "-1000000.0" ∧
      withoutCommas "-1,000,000.0" = "-1000000.0" := by
  intro n
  have hspec : NumberFormat.ofText? ['N', '1'] = some ⟨1, true⟩ := by decide
  have hplain : NumberFormat.ofText? ['0', '.', '0'] = some ⟨1, false⟩ := by decide
  have hgrouped : apply (placed ['N', '1']) (.number n) = some "-1,000,000.0" := by
    rw [apply_placed hspec]
    decide +kernel
  have hungrouped : apply (placed ['0', '.', '0']) (.number n) = some "-1000000.0" := by
    rw [apply_placed hplain]
    decide +kernel
  obtain ⟨sign, whole, grouped, fraction, heq, heq', -, -, -, -, -, hwithout⟩ :=
    apply_placed_grouped hspec hplain n
  rw [hungrouped, Option.some_inj] at heq
  rw [hgrouped, Option.some_inj] at heq'
  rw [← heq, ← heq'] at hwithout
  exact ⟨hspec, hplain, by decide +kernel, hgrouped, hungrouped, hwithout⟩

end SpanFormat

end Bindery
