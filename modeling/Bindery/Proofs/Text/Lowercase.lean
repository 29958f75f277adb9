import Mathlib.Tactic.ByContra
import Bindery.Entries
import Bindery.Text.Lowercase

/-!
# Small letters and the case of ASCII letters

Keys are compared up to the case of ASCII letters, while tags and the keys of payloads are made
small after the rules for all letters.  The two agree on ASCII: the small form of a text depends on
the text only up to the case of its ASCII letters (`Text.lowercase_congr`).

An ASCII letter has the same small form in both cases.  It also plays the same part in both cases
for a sigma near to it, as a letter that has a case and is not passed over.

Conversely, a key whose small form is a name in ASCII is that name up to the case of ASCII letters,
if the name has no `k`, which is also the small form of the sign for kelvin
(`Text.lowercase_eq_iff`).

A sigma looks for the nearest letter on either side and no further.  So what comes before an ASCII
capital has no part in the small form of what begins there (`Text.lowerAfter_of_isUpper`), and a
mark that is taken off a name before a capital might as well be taken off its small form.
-/

namespace Bindery

namespace Text

/-- The code points of the ASCII capitals. -/
def asciiCapitals : List Nat :=
  List.range' 0x41 26

theorem toNat_mem_asciiCapitals {c : Char} (h : c.isUpper = true) : c.toNat ∈ asciiCapitals := by
  have hrange : 'A'.val ≤ c.val ∧ c.val ≤ 'Z'.val := of_decide_eq_true h
  rw [UInt32.le_iff_toNat_le, UInt32.le_iff_toNat_le] at hrange
  exact List.mem_range'_1.2 ⟨hrange.1, Nat.lt_succ_of_le hrange.2⟩

/-- What is the same for a character and for its small ASCII letter, because it is so for the
capitals. -/
theorem apply_toLower {α : Type} {f : Char → α}
    (h : ∀ code ∈ asciiCapitals, f (Char.ofNat code).toLower = f (Char.ofNat code)) (c : Char) :
    f c.toLower = f c := by
  by_cases hupper : c.isUpper = true
  · simpa using h c.toNat (toNat_mem_asciiCapitals hupper)
  · have hsame : c.toLower = c := dif_neg fun hrange => hupper (decide_eq_true hrange)
    rw [hsame]

theorem isCased_toLower (c : Char) : isCased c.toLower = isCased c :=
  apply_toLower (by decide +kernel) c

/-- Neither an ASCII capital nor its small letter is passed over. -/
theorem isCaseIgnorable_capitals : ∀ code ∈ asciiCapitals,
    isCaseIgnorable (Char.ofNat code) = false ∧
      isCaseIgnorable (Char.ofNat code).toLower = false := by
  decide +kernel

theorem isCaseIgnorable_toLower (c : Char) : isCaseIgnorable c.toLower = isCaseIgnorable c := by
  refine apply_toLower (fun code hcode => ?_) c
  obtain ⟨hcapital, hsmall⟩ := isCaseIgnorable_capitals code hcode
  rw [hcapital, hsmall]

theorem lowerChar_toLower (c : Char) : lowerChar c.toLower = lowerChar c :=
  apply_toLower (by decide +kernel) c

theorem toLower_eq_sigma_iff (c : Char) : c.toLower = 'Σ' ↔ c = 'Σ' :=
  iff_of_eq (apply_toLower (f := (· = 'Σ')) (by decide +kernel) c)

theorem startsCased_map_toLower (text : List Char) :
    startsCased (text.map Char.toLower) = startsCased text := by
  induction text with
  | nil => rfl
  | cons c text ih =>
    rw [startsCased, startsCased, List.map_cons, List.dropWhile_cons, List.dropWhile_cons,
      isCaseIgnorable_toLower]
    cases isCaseIgnorable c with
    | true => exact ih
    | false => exact isCased_toLower c

/-- **The small form does not change** if the ASCII letters of a text are small already, and those
of what comes before it. -/
theorem lowerAfter_map_toLower (before text : List Char) :
    lowerAfter (before.map Char.toLower) (text.map Char.toLower) = lowerAfter before text := by
  induction text generalizing before with
  | nil => rfl
  | cons c text ih =>
    have hrest := ih (c :: before)
    rw [List.map_cons] at hrest
    rw [List.map_cons, lowerAfter, lowerAfter, hrest, startsCased_map_toLower,
      startsCased_map_toLower, lowerChar_toLower]
    simp only [toLower_eq_sigma_iff]

/-- Texts that are equal up to the case of ASCII letters have the same small form. -/
theorem lowercase_congr {s t : String} (h : foldCase s = foldCase t) :
    lowercase s = lowercase t := by
  have hfold (text : String) : lowercase text = String.ofList (lowerAfter [] (foldCase text)) :=
    congrArg String.ofList (lowerAfter_map_toLower [] text.toList).symm
  rw [hfold, hfold, h]

/-! ## Texts that become plain -/

/-- The only small ASCII letter that a character beyond ASCII becomes is `k`, from the sign for
kelvin.  The other such characters become, or keep, a character beyond ASCII. -/
theorem exists_mem_lowerChar {c : Char} (hc : 0x80 ≤ c.toNat) :
    ∃ d ∈ lowerChar c, d = 'k' ∨ 0x80 ≤ d.toNat := by
  have hruns : ∀ run ∈ caseRuns,
      (run.first = 0x212A ∧ run.last = 0x212A ∧ run.offset = -8383) ∨
        (0x80 ≤ run.first + run.offset ∧ run.last + run.offset < 0xD800) ∨
        (0xDFFF < run.first + run.offset ∧ run.last + run.offset < 0x110000) := by
    decide +kernel
  rw [lowerChar, if_neg (by omega)]
  split
  · exact ⟨'\u0307', by decide, .inr (by decide)⟩
  split
  · next run hrun =>
    have hmem := List.find?_some hrun
    simp only [CaseRun.mem, Bool.and_eq_true, decide_eq_true_eq] at hmem
    refine ⟨_, List.mem_singleton_self _, ?_⟩
    obtain ⟨hfirst, hlast, hoffset⟩ | hplane | hplane := hruns run (List.mem_of_find?_eq_some hrun)
    · have hcode : (c.toNat + run.offset).toNat = 'k'.toNat := by
        have : 'k'.toNat = 107 := rfl
        omega
      exact .inl (by rw [hcode, Char.ofNat_toNat])
    all_goals
      have hvalid : (c.toNat + run.offset).toNat.isValidChar := by
        unfold Nat.isValidChar
        omega
      have hchar : Char.ofNat (c.toNat + run.offset).toNat = Char.ofNatAux _ hvalid :=
        dif_pos hvalid
      have hcode : (Char.ofNatAux _ hvalid).toNat = (c.toNat + run.offset).toNat := rfl
      rw [hchar, hcode]
      exact .inr (by omega)
  · exact ⟨c, List.mem_singleton_self c, .inr hc⟩

/-- If the small form of a text has ASCII characters only, and no `k` among them, then so has the
text, and its letters are made small one by one. -/
theorem lowerAfter_eq_map_toLower {before text : List Char}
    (h : ∀ d ∈ lowerAfter before text, d.toNat < 0x80 ∧ d ≠ 'k') :
    lowerAfter before text = text.map Char.toLower := by
  induction text generalizing before with
  | nil => rfl
  | cons c text ih =>
    rw [lowerAfter] at h ⊢
    rw [List.forall_mem_append] at h
    obtain ⟨hsmall, hrest⟩ := h
    have hsigma : c ≠ 'Σ' := by
      rintro rfl
      rw [if_pos rfl, List.forall_mem_singleton] at hsmall
      revert hsmall
      split <;> decide
    rw [if_neg hsigma] at hsmall ⊢
    have hascii : c.toNat < 0x80 := by
      by_contra hbeyond
      obtain ⟨d, hd, hk | hd'⟩ := exists_mem_lowerChar (Nat.not_lt.1 hbeyond)
      · exact (hsmall d hd).2 hk
      · exact absurd (hsmall d hd).1 (Nat.not_lt.2 hd')
    rw [ih hrest, lowerChar, if_pos hascii, List.singleton_append, List.map_cons]

/-- **Making a key small finds a name** exactly if the two are equal up to the case of ASCII
letters, for a name that is small and has ASCII characters only, but no `k`. -/
theorem lowercase_eq_iff {name : String} (hname : ∀ d ∈ name.toList, d.toNat < 0x80 ∧ d ≠ 'k')
    (hsmall : lowercase name = name) (key : String) :
    lowercase key = name ↔ foldCase key = foldCase name := by
  have hfold {text : String} (h : lowercase text = name) : foldCase text = name.toList := by
    have hchars : lowerAfter [] text.toList = name.toList := by
      rw [← h, lowercase, String.toList_ofList]
    have hmap : lowerAfter [] text.toList = text.toList.map Char.toLower :=
      lowerAfter_eq_map_toLower (hchars ▸ hname)
    rw [foldCase, ← hmap, hchars]
  constructor
  · intro h
    rw [hfold h, hfold hsmall]
  · intro h
    rw [lowercase_congr h, hsmall]

/-! ## What comes before a letter -/

/-- The nearest character with a case is not looked for beyond one that is not passed over. -/
theorem startsCased_append_cons {c : Char} (hc : isCaseIgnorable c = false)
    (near far : List Char) : startsCased (near ++ c :: far) = startsCased (near ++ [c]) := by
  induction near with
  | nil => simp [startsCased, hc]
  | cons d near ih =>
    rw [startsCased, startsCased, List.cons_append, List.cons_append, List.dropWhile_cons,
      List.dropWhile_cons]
    cases isCaseIgnorable d with
    | true => exact ih
    | false => rfl

/-- The small form of a text does not depend on what comes before the last character that is not
passed over. -/
theorem lowerAfter_append_cons {c : Char} (hc : isCaseIgnorable c = false)
    (near far text : List Char) :
    lowerAfter (near ++ c :: far) text = lowerAfter (near ++ [c]) text := by
  induction text generalizing near with
  | nil => rfl
  | cons d text ih =>
    rw [lowerAfter, lowerAfter, startsCased_append_cons hc, ← List.cons_append, ih (d :: near),
      List.cons_append]

theorem isCaseIgnorable_of_isUpper {c : Char} (h : c.isUpper = true) :
    isCaseIgnorable c = false := by
  simpa using (isCaseIgnorable_capitals c.toNat (toNat_mem_asciiCapitals h)).1

/-- A text that begins with an ASCII capital has the same small form after any other. -/
theorem lowerAfter_of_isUpper {c : Char} (h : c.isUpper = true) (before text : List Char) :
    lowerAfter before (c :: text) = lowerAfter [] (c :: text) := by
  have hc := isCaseIgnorable_of_isUpper h
  have hsigma : c ≠ 'Σ' := by
    rintro rfl
    exact absurd h (by decide)
  rw [lowerAfter, lowerAfter, if_neg hsigma, if_neg hsigma]
  congr 1
  exact lowerAfter_append_cons hc [] before text

end Text

end Bindery
