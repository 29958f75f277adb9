import Mathlib.Algebra.BigOperators.Group.List.Basic
import Mathlib.Tactic.Ring
import Bindery.Proofs.Numeral.Alphabetic

/-!
# Roman numerals

A Roman numeral is read sign by sign: a sign before a greater one is subtracted, and any other is
added.  So what is read depends on neighbours, and the numeral that is written sign after sign could
be read otherwise where two of its parts meet.  It is not, because the parts get smaller: what is
left over when a part no longer fits is less than the part, hence the sign that comes next is less
than the part too, while the last sign of a part is never less than the part itself
(`Numeral.signValue_head_greedy`, `Numeral.IsPart.le_last`).

The same fact keeps runs of one sign apart.  The signs on the two sides of a meeting place are
different, so a run stays within the copies of one part, and of every part after the thousands there
are only so many copies that they are three signs at most.

* `Numeral.romanValue`: the value of a numeral.
* `Numeral.romanValue_greedy`: what is written has the value of the number, less what is left over.
* `Numeral.not_replicate_infix_greedy`: no sign four times in a row.
* `Numeral.count_greedy`: how often a sign is written.
-/

namespace Bindery

namespace Numeral

/-! ## Reading -/

/-- What a sign stands for. -/
def signValue : Char → ℕ
  | 'I' => 1
  | 'V' => 5
  | 'X' => 10
  | 'L' => 50
  | 'C' => 100
  | 'D' => 500
  | 'M' => 1000
  | _ => 0

/-- The value of a numeral: a sign before a greater one is subtracted, any other is added. -/
def romanValue : List Char → ℤ
  | [] => 0
  | [sign] => signValue sign
  | sign :: next :: signs =>
    (if signValue sign < signValue next then -(signValue sign : ℤ) else signValue sign) +
      romanValue (next :: signs)

@[simp] theorem romanValue_nil : romanValue [] = 0 := rfl

@[simp] theorem romanValue_singleton (sign : Char) : romanValue [sign] = signValue sign := rfl

theorem romanValue_cons_cons (sign next : Char) (signs : List Char) :
    romanValue (sign :: next :: signs) =
      (if signValue sign < signValue next then -(signValue sign : ℤ) else signValue sign) +
        romanValue (next :: signs) := rfl

/-- Two numerals are read one after the other if the last sign of the first is not less than the
first sign of the second. -/
theorem romanValue_append {before after : List Char}
    (h : ∀ last ∈ before.getLast?, ∀ first ∈ after.head?, signValue first ≤ signValue last) :
    romanValue (before ++ after) = romanValue before + romanValue after := by
  induction before with
  | nil => rw [List.nil_append, romanValue_nil, zero_add]
  | cons sign before ih =>
    cases before with
    | nil =>
      cases after with
      | nil => rw [List.append_nil, romanValue_nil, add_zero]
      | cons first after =>
        have hle : signValue first ≤ signValue sign := h sign rfl first rfl
        rw [List.singleton_append, romanValue_cons_cons, if_neg hle.not_gt, romanValue_singleton]
    | cons next before =>
      rw [List.getLast?_cons_cons] at h
      have hrest := ih h
      rw [List.cons_append] at hrest
      rw [List.cons_append, List.cons_append, romanValue_cons_cons, hrest, romanValue_cons_cons,
        add_assoc]

/-! ## Parts -/

/-- The parts of numerals with their values: a sign, or a sign before one that is at least twice as
great. -/
inductive IsPart : ℕ × List Char → Prop
  | single (sign : Char) (hpos : 0 < signValue sign) : IsPart (signValue sign, [sign])
  | pair (less sign : Char) (hpos : 0 < signValue less)
      (hle : 2 * signValue less ≤ signValue sign) :
      IsPart (signValue sign - signValue less, [less, sign])

theorem isPart_romanSigns : ∀ part ∈ romanSigns, IsPart part := by
  simp only [romanSigns, List.forall_mem_cons]
  exact ⟨.single 'M' (by decide), .pair 'C' 'M' (by decide) (by decide), .single 'D' (by decide),
    .pair 'C' 'D' (by decide) (by decide), .single 'C' (by decide),
    .pair 'X' 'C' (by decide) (by decide), .single 'L' (by decide),
    .pair 'X' 'L' (by decide) (by decide), .single 'X' (by decide),
    .pair 'I' 'X' (by decide) (by decide), .single 'V' (by decide),
    .pair 'I' 'V' (by decide) (by decide), .single 'I' (by decide), List.forall_mem_nil _⟩

namespace IsPart

variable {value : ℕ} {signs : List Char} (h : IsPart (value, signs))

include h

theorem pos : 0 < value := by
  cases h with
  | single sign hpos => exact hpos
  | pair less sign hpos hle => omega

/-- The first sign of a part is not greater than the part. -/
theorem head_le : ∀ first ∈ signs.head?, signValue first ≤ value := by
  intro first hfirst
  cases h with
  | single sign hpos =>
    cases hfirst
    exact le_refl _
  | pair less sign hpos hle =>
    cases hfirst
    omega

/-- The last sign of a part is not less than the part. -/
theorem le_last : ∀ last ∈ signs.getLast?, value ≤ signValue last := by
  intro last hlast
  cases h with
  | single sign hpos =>
    cases hlast
    exact le_refl _
  | pair less sign hpos hle =>
    cases hlast
    exact Nat.sub_le _ _

theorem ne_nil : signs ≠ [] := by
  cases h <;> exact List.cons_ne_nil _ _

/-- A part has its value. -/
theorem romanValue_eq : romanValue signs = value := by
  cases h with
  | single sign hpos => rfl
  | pair less sign hpos hle =>
    have hlt : signValue less < signValue sign := by omega
    rw [romanValue_cons_cons, if_pos hlt, romanValue_singleton, Nat.cast_sub hlt.le]
    ring

end IsPart

/-- The copies of a part. -/
def copies (count : ℕ) (signs : List Char) : List Char :=
  (List.replicate count signs).flatten

@[simp] theorem greedy_nil (n : ℕ) : greedy [] n = [] := rfl

theorem greedy_cons (value : ℕ) (signs : List Char) (parts : List (ℕ × List Char)) (n : ℕ) :
    greedy ((value, signs) :: parts) n = copies (n / value) signs ++ greedy parts (n % value) := rfl

@[simp] theorem copies_zero (signs : List Char) : copies 0 signs = [] := rfl

theorem copies_succ (count : ℕ) (signs : List Char) :
    copies (count + 1) signs = signs ++ copies count signs := by
  rw [copies, List.replicate_succ, List.flatten_cons, copies]

theorem length_copies (count : ℕ) (signs : List Char) :
    (copies count signs).length = count * signs.length := by
  rw [copies, List.length_flatten, List.map_replicate, List.sum_replicate_nat]

theorem getLast?_copies_succ (count : ℕ) (signs : List Char) :
    (copies (count + 1) signs).getLast? = signs.getLast? := by
  induction count with
  | zero => rw [copies_succ, copies_zero, List.append_nil]
  | succ count ih =>
    rw [copies_succ, List.getLast?_append, ih]
    cases signs.getLast? <;> rfl

namespace IsPart

variable {value : ℕ} {signs : List Char} (h : IsPart (value, signs))

include h

theorem head?_copies_succ (count : ℕ) : (copies (count + 1) signs).head? = signs.head? := by
  rw [copies_succ, List.head?_append_of_ne_nil _ h.ne_nil]

/-- Copies of a part have their values added. -/
theorem romanValue_copies (count : ℕ) : romanValue (copies count signs) = count * value := by
  induction count with
  | zero => rw [copies_zero, romanValue_nil, Nat.cast_zero, zero_mul]
  | succ count ih =>
    rw [copies_succ, romanValue_append, ih, h.romanValue_eq]
    · push_cast
      ring
    · intro last hlast first hfirst
      cases count with
      | zero => cases hfirst
      | succ count =>
        rw [h.head?_copies_succ] at hfirst
        exact (h.head_le first hfirst).trans (h.le_last last hlast)

/-- The last sign of the copies of a part is not less than the part. -/
theorem le_last_copies (count : ℕ) :
    ∀ last ∈ (copies count signs).getLast?, value ≤ signValue last := by
  intro last hlast
  cases count with
  | zero => cases hlast
  | succ count =>
    rw [getLast?_copies_succ] at hlast
    exact h.le_last last hlast

end IsPart

/-! ## Writing -/

/-- The first sign that is written for a number is not greater than the number. -/
theorem signValue_head_greedy {parts : List (ℕ × List Char)} (hparts : ∀ part ∈ parts, IsPart part)
    (n : ℕ) : ∀ first ∈ (greedy parts n).head?, signValue first ≤ n := by
  induction parts generalizing n with
  | nil =>
    intro first hfirst
    cases hfirst
  | cons part parts ih =>
    obtain ⟨value, signs⟩ := part
    rw [List.forall_mem_cons] at hparts
    intro first hfirst
    rw [greedy_cons] at hfirst
    cases hcount : n / value with
    | zero =>
      rw [hcount, copies_zero, List.nil_append] at hfirst
      exact (ih hparts.2 _ first hfirst).trans (Nat.mod_le n value)
    | succ count =>
      have hfits : value ≤ n :=
        (Nat.div_pos_iff.1 (hcount ▸ Nat.succ_pos count)).2
      have hhead : (copies (count + 1) signs ++ greedy parts (n % value)).head? = signs.head? := by
        rw [copies_succ, List.append_assoc, List.head?_append_of_ne_nil _ hparts.1.ne_nil]
      rw [hcount, hhead] at hfirst
      exact (hparts.1.head_le first hfirst).trans hfits

/-- **Where two parts meet** the sign that ends the one is greater than the sign that begins the
other. -/
theorem signValue_lt_of_meet {value : ℕ} {signs : List Char} (hpart : IsPart (value, signs))
    {parts : List (ℕ × List Char)} (hparts : ∀ part ∈ parts, IsPart part) (count n : ℕ) :
    ∀ last ∈ (copies count signs).getLast?, ∀ first ∈ (greedy parts (n % value)).head?,
      signValue first < signValue last := by
  intro last hlast first hfirst
  calc signValue first ≤ n % value := signValue_head_greedy hparts _ first hfirst
    _ < value := Nat.mod_lt n hpart.pos
    _ ≤ signValue last := hpart.le_last_copies count last hlast

/-- What is left of a number when no part fits any more. -/
def leftOver (parts : List (ℕ × List Char)) (n : ℕ) : ℕ :=
  parts.foldl (fun n part => n % part.1) n

/-- **What is written has the value of the number**, less what is left over. -/
theorem romanValue_greedy {parts : List (ℕ × List Char)} (hparts : ∀ part ∈ parts, IsPart part)
    (n : ℕ) : romanValue (greedy parts n) + leftOver parts n = n := by
  induction parts generalizing n with
  | nil => rw [greedy_nil, romanValue_nil, zero_add, leftOver, List.foldl_nil]
  | cons part parts ih =>
    obtain ⟨value, signs⟩ := part
    rw [List.forall_mem_cons] at hparts
    have hrest := ih hparts.2 (n % value)
    have hmeet := signValue_lt_of_meet hparts.1 hparts.2 (n / value) n
    rw [greedy_cons, romanValue_append fun last hlast first hfirst =>
        (hmeet last hlast first hfirst).le,
      hparts.1.romanValue_copies, leftOver, List.foldl_cons, ← leftOver, add_assoc, hrest]
    exact_mod_cast Nat.div_add_mod' n value

theorem leftOver_romanSigns (n : ℕ) : leftOver romanSigns n = 0 := by
  simp only [leftOver, romanSigns, List.foldl_cons, List.foldl_nil, Nat.mod_one]

/-- **A Roman numeral has the value of its number.** -/
theorem romanValue_roman (n : ℕ) : romanValue (roman n) = n := by
  have h := romanValue_greedy isPart_romanSigns n
  rwa [leftOver_romanSigns, Nat.cast_zero, add_zero] at h

theorem roman_injective : Function.Injective roman := by
  intro m n h
  have hvalue := congrArg romanValue h
  rw [romanValue_roman, romanValue_roman] at hvalue
  exact Int.ofNat_inj.1 hvalue

/-! ## Runs of one sign -/

/-- A run stays on one side of a place where different signs meet. -/
theorem not_replicate_infix_append {sign : Char} {count : ℕ} {before after : List Char}
    (hbefore : ¬ List.replicate count sign <:+: before)
    (hafter : ¬ List.replicate count sign <:+: after)
    (hmeet : sign ∈ before.getLast? → sign ∉ after.head?) :
    ¬ List.replicate count sign <:+: before ++ after := by
  rw [List.infix_append_iff]
  rintro (h | h | ⟨left, right, hrun, ⟨more, rfl⟩, ⟨rest, rfl⟩⟩)
  · exact hbefore h
  · exact hafter h
  · have hsame : ∀ c ∈ left ++ right, c = sign := fun c hc =>
      List.eq_of_mem_replicate (hrun ▸ hc)
    rw [List.forall_mem_append] at hsame
    obtain rfl | ⟨init, last, rfl⟩ := List.eq_nil_or_concat left
    · rw [List.nil_append] at hrun
      exact hafter (hrun ▸ (List.prefix_append _ _).isInfix)
    · cases right with
      | nil =>
        rw [List.append_nil] at hrun
        exact hbefore (hrun ▸ (List.suffix_append _ _).isInfix)
      | cons first right =>
        have hlast : last = sign := hsame.1 last (by simp)
        have hfirst : first = sign := hsame.2 first List.mem_cons_self
        subst hlast hfirst
        exact hmeet (by simp) rfl

/-- **No sign is written four times in a row**, if the numbers are such that the copies of every
part are three signs at most.  Of a part there are so many copies as fit into what the part before
leaves over. -/
theorem not_replicate_infix_greedy {bound : ℕ} {signs : List Char} {parts : List (ℕ × List Char)}
    (hparts : ∀ part ∈ parts, IsPart part)
    (hbounds : List.IsChain (fun part next : ℕ × List Char => next.2.length * part.1 ≤ 4 * next.1)
      ((bound, signs) :: parts)) {n : ℕ} (hn : n < bound) (sign : Char) :
    ¬ List.replicate 4 sign <:+: greedy parts n := by
  induction parts generalizing n bound signs with
  | nil => simp
  | cons part parts ih =>
    obtain ⟨value, next⟩ := part
    rw [List.forall_mem_cons] at hparts
    rw [List.isChain_cons_cons] at hbounds
    rw [greedy_cons]
    refine not_replicate_infix_append ?copies
      (ih hparts.2 hbounds.2 (Nat.mod_lt n hparts.1.pos)) fun hlast hfirst =>
        (signValue_lt_of_meet hparts.1 hparts.2 _ n sign hlast sign hfirst).false
    case copies =>
      intro hwithin
      have hlength := hwithin.length_le
      rw [List.length_replicate, length_copies] at hlength
      have hfit : n / value * next.length * value ≤ next.length * n := by
        rw [Nat.mul_right_comm, Nat.mul_comm]
        exact Nat.mul_le_mul_left _ (Nat.div_mul_le_self n value)
      have hless : next.length * n < 4 * value :=
        (Nat.mul_lt_mul_of_pos_left hn (List.length_pos_iff.2 hparts.1.ne_nil)).trans_le hbounds.1
      exact absurd (hfit.trans_lt hless) (Nat.not_lt.2 (Nat.mul_le_mul_right value hlength))

theorem mem_of_mem_copies {sign : Char} {count : ℕ} {signs : List Char}
    (h : sign ∈ copies count signs) : sign ∈ signs := by
  obtain ⟨copy, hcopy, hsign⟩ := List.mem_flatten.1 h
  rwa [List.eq_of_mem_replicate hcopy] at hsign

/-- No sign but the one for a thousand is written four times in a row. -/
theorem not_replicate_infix_roman {sign : Char} (hsign : sign ≠ 'M') (n : ℕ) :
    ¬ List.replicate 4 sign <:+: roman n := by
  have hthousands : romanSigns = (1000, ['M']) :: romanSigns.tail := rfl
  have hthousand : IsPart (1000, ['M']) := isPart_romanSigns _ List.mem_cons_self
  have hparts : ∀ part ∈ romanSigns.tail, IsPart part :=
    fun part hpart => isPart_romanSigns part (List.mem_of_mem_tail hpart)
  have hbounds : List.IsChain
      (fun part next : ℕ × List Char => next.2.length * part.1 ≤ 4 * next.1)
      ((1000, ['M']) :: romanSigns.tail) := by
    simp [romanSigns]
  rw [roman, hthousands, greedy_cons]
  refine not_replicate_infix_append (fun hwithin => ?thousands)
    (not_replicate_infix_greedy hparts hbounds
      (Nat.mod_lt n hthousand.pos) sign) fun hlast hfirst =>
        (signValue_lt_of_meet hthousand hparts _ n sign hlast sign hfirst).false
  case thousands =>
    have hmem := mem_of_mem_copies (hwithin.subset (List.mem_replicate.2 ⟨by decide, rfl⟩))
    exact hsign (List.mem_singleton.1 hmem)

/-! ## How often a sign is written -/

theorem count_greedy_cons (sign : Char) (value : ℕ) (signs : List Char)
    (parts : List (ℕ × List Char)) (n : ℕ) :
    (greedy ((value, signs) :: parts) n).count sign =
      n / value * signs.count sign + (greedy parts (n % value)).count sign := by
  rw [greedy_cons, List.count_append, copies, List.count_flatten, List.map_replicate,
    List.sum_replicate_nat]

/-- **A sign for five, fifty or five hundred is written at most once.**  Where it stands alone, less
is left over than the pair in which it comes second. -/
theorem count_roman_le_one (n : ℕ) : ∀ sign ∈ ['V', 'L', 'D'], (roman n).count sign ≤ 1 := by
  simp only [List.forall_mem_cons]
  refine ⟨?_, ?_, ?_, List.forall_mem_nil _⟩
  · have hcount : (roman n).count 'V' = n % 10 % 9 / 5 + n % 10 % 9 % 5 / 4 := by
      simp [roman, romanSigns, count_greedy_cons]
    omega
  · have hcount : (roman n).count 'L' = n % 100 % 90 / 50 + n % 100 % 90 % 50 / 40 := by
      simp [roman, romanSigns, count_greedy_cons]
    omega
  · have hcount : (roman n).count 'D' = n % 1000 % 900 / 500 + n % 1000 % 900 % 500 / 400 := by
      simp [roman, romanSigns, count_greedy_cons]
    omega

/-! ## Roman numerals -/

/-- Whatever is written is a sign of some part. -/
theorem exists_part_of_mem_greedy {parts : List (ℕ × List Char)} {n : ℕ} {sign : Char}
    (h : sign ∈ greedy parts n) : ∃ part ∈ parts, sign ∈ part.2 := by
  induction parts generalizing n with
  | nil => cases h
  | cons part parts ih =>
    rw [greedy_cons, List.mem_append] at h
    obtain hcopy | hrest := h
    · exact ⟨part, List.mem_cons_self, mem_of_mem_copies hcopy⟩
    · obtain ⟨other, hmem, hsign⟩ := ih hrest
      exact ⟨other, List.mem_cons_of_mem _ hmem, hsign⟩

theorem isUpper_of_mem_roman {n : ℕ} : ∀ sign ∈ roman n, sign.isUpper = true := by
  have hsigns : ∀ part ∈ romanSigns, part.2.all Char.isUpper = true := by decide
  intro sign hsign
  obtain ⟨part, hpart, hmem⟩ := exists_part_of_mem_greedy hsign
  exact List.all_eq_true.1 (hsigns part hpart) sign hmem

/-- **Roman numerals** have the values of their numbers.  The signs for one, ten and a hundred stand
three times in a row at most, and those for five, fifty and five hundred are written at most once.
Different numbers have different numerals, and so different markers in a list that is numbered by
large or by small Roman numerals. -/
theorem roman_denotes :
    (∀ n, romanValue (roman n) = n) ∧
      (∀ n, ∀ sign ∈ ['I', 'X', 'C'], ¬ List.replicate 4 sign <:+: roman n) ∧
      (∀ n, ∀ sign ∈ ['V', 'L', 'D'], (roman n).count sign ≤ 1) ∧
      Function.Injective roman ∧
      Function.Injective ListModel.upperRoman.marker ∧
      Function.Injective ListModel.lowerRoman.marker := by
  refine ⟨romanValue_roman, fun n sign hsign => not_replicate_infix_roman ?_ n, count_roman_le_one,
    roman_injective, marker_injective roman_injective fun _ => isUpper_of_mem_roman⟩
  rintro rfl
  exact absurd hsign (by decide)

/-- The numeral in which every sign stands as often as it may, after three thousands. -/
theorem roman_denotes_longest :
    roman 3888 = "MMMDCCCLXXXVIII".toList ∧ romanValue (roman 3888) = 3888 ∧
      'C' ∈ ['I', 'X', 'C'] ∧ ¬ List.replicate 4 'C' <:+: roman 3888 ∧
      'L' ∈ ['V', 'L', 'D'] ∧ (roman 3888).count 'L' ≤ 1 := by
  obtain ⟨hvalue, hrun, hcount, -⟩ := roman_denotes
  exact ⟨by decide +kernel, hvalue 3888, by decide, hrun 3888 'C' (by decide), by decide,
    hcount 3888 'L' (by decide)⟩

end Numeral

end Bindery
