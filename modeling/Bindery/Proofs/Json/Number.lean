import Bindery.Json.Reader
import Bindery.Proofs.Binary64.Shortest

/-!
# Numbers are read back

A number is read in parts: the digits before a point, the fraction, the exponent.  Each part ends
where a character comes that cannot continue it, so what is proved of a part is stated for any text
behind it that does not continue it (`EndsDigits`, `EndsNumber`).  Digits before the point may start
with a zero only if they are that zero (`IsWhole`), which is why the two layouts of a decimal need
their own argument: the positional one pads with zeros, and may do so only up to the first place
before the point.

What a decimal literal denotes is a rational.  `IsDecimalText` says that a text is such a literal of
a given value, without saying where its point stands, and `isDecimalText_text` says it of the text
of a decimal in any layout.  Together with `Binary64.ofDecimal?_of_value_eq` this is
`Number.scalarFrom_text`: the text of a number is read as that number.  An integer is different,
because it is read as an integer if it fits into a word, and is not converted at all.
-/

namespace Bindery

namespace Json

/-! ## Parts of a number -/

/-- Digits that may stand before the point: at least one, and a leading zero only alone. -/
structure IsWhole (digits : List Char) : Prop where
  isDigit : ∀ c ∈ digits, c.isDigit = true
  leading : ∃ digit more, digits = digit :: more ∧ (digit = '0' → more = [])

/-- Whether a text does not continue a number. -/
def EndsNumber (later : List Char) : Prop :=
  ∀ c ∈ later.head?, c.isDigit = false ∧ c ≠ '.' ∧ c ≠ 'e' ∧ c ≠ 'E'

/-- Whether a text does not continue a run of digits. -/
def EndsDigits (later : List Char) : Prop :=
  ∀ c ∈ later.head?, c.isDigit = false

theorem endsDigits_cons {c : Char} (hc : c.isDigit = false) (text : List Char) :
    EndsDigits (c :: text) := by
  intro first hfirst
  rwa [← Option.some.inj hfirst]

theorem EndsNumber.endsDigits {later : List Char} (h : EndsNumber later) : EndsDigits later :=
  fun c hc => (h c hc).1

theorem EndsDigits.takeWhile_eq_nil {later : List Char} (h : EndsDigits later) :
    later.takeWhile Char.isDigit = [] := by
  cases later with
  | nil => rfl
  | cons c later => rw [List.takeWhile_cons_of_neg (by simp [h c rfl])]

theorem EndsDigits.dropWhile_eq_self {later : List Char} (h : EndsDigits later) :
    later.dropWhile Char.isDigit = later := by
  cases later with
  | nil => rfl
  | cons c later => rw [List.dropWhile_cons_of_neg (by simp [h c rfl])]

variable {digits later : List Char}

theorem takeWhile_isDigit_append (hdigits : ∀ c ∈ digits, c.isDigit = true)
    (hlater : EndsDigits later) : (digits ++ later).takeWhile Char.isDigit = digits := by
  rw [List.takeWhile_append_of_pos hdigits, hlater.takeWhile_eq_nil, List.append_nil]

theorem dropWhile_isDigit_append (hdigits : ∀ c ∈ digits, c.isDigit = true)
    (hlater : EndsDigits later) : (digits ++ later).dropWhile Char.isDigit = later := by
  rw [List.dropWhile_append_of_pos hdigits, hlater.dropWhile_eq_self]

theorem digitsPart_append (negative : Bool) (hne : digits ≠ [])
    (hdigits : ∀ c ∈ digits, c.isDigit = true) (hlater : EndsDigits later) :
    digitsPart negative (digits ++ later) = (.present negative digits, later) := by
  rw [digitsPart, takeWhile_isDigit_append hdigits hlater, dropWhile_isDigit_append hdigits hlater]
  cases digits with
  | nil => exact absurd rfl hne
  | cons c more => rfl

theorem fractionPart_cons {c : Char} (hc : c ≠ '.') (text : List Char) :
    fractionPart (c :: text) = (.absent, c :: text) := by
  unfold fractionPart
  split
  · next h => exact absurd (List.cons.inj h).1 hc
  · rfl

theorem fractionPart_of_endsNumber (hlater : EndsNumber later) :
    fractionPart later = (.absent, later) := by
  cases later with
  | nil => rfl
  | cons c later => exact fractionPart_cons (hlater c rfl).2.1 later

theorem exponentPart_of_endsNumber (hlater : EndsNumber later) :
    exponentPart later = (.absent, later) := by
  cases later with
  | nil => rfl
  | cons c later =>
    obtain ⟨-, -, he, hE⟩ := hlater c rfl
    simp only [exponentPart, he, hE, or_self, if_false]

/-- The sign of an exponent. -/
def exponentSign (negative : Bool) : Char :=
  if negative then '-' else '+'

theorem exponentPart_cons (negative : Bool) (hne : digits ≠ [])
    (hdigits : ∀ c ∈ digits, c.isDigit = true) (hlater : EndsDigits later) :
    exponentPart ('e' :: exponentSign negative :: (digits ++ later)) =
      (.present negative digits, later) := by
  have hpart := digitsPart_append negative hne hdigits hlater
  cases negative <;> simpa [exponentPart, exponentSign] using hpart

/-! ## Whole numbers -/

/-- The digits before the point are read to their end. -/
theorem numberFrom_append (negative : Bool) {digit : Char} {more later : List Char}
    (hwhole : IsWhole (digit :: more)) (hlater : EndsDigits later) :
    numberFrom negative digit (more ++ later) =
      numberAfterWhole negative (digit :: more) later := by
  have hmore : ∀ c ∈ more, c.isDigit = true :=
    fun c hc => hwhole.isDigit c (List.mem_cons_of_mem _ hc)
  rw [numberFrom, takeWhile_isDigit_append hmore hlater, dropWhile_isDigit_append hmore hlater]
  cases more with
  | nil => rfl
  | cons second more =>
    have hdigit : digit ≠ '0' := by
      rintro rfl
      obtain ⟨_, _, heq, hzero⟩ := hwhole.leading
      obtain ⟨rfl, rfl⟩ := List.cons.inj heq
      exact absurd (hzero rfl) (List.cons_ne_nil _ _)
    simp only [hdigit, if_false]

theorem numberAfterWhole_of_endsNumber (negative : Bool) (whole : List Char)
    (hlater : EndsNumber later) :
    numberAfterWhole negative whole later =
      (⟨false, integerValue negative whole, none⟩, later) := by
  simp only [numberAfterWhole, fractionPart_of_endsNumber hlater, exponentPart_of_endsNumber hlater]

theorem numberAfterWhole_fraction (negative : Bool) (whole : List Char) {fraction : List Char}
    (hne : fraction ≠ []) (hdigits : ∀ c ∈ fraction, c.isDigit = true) (hlater : EndsNumber later) :
    numberAfterWhole negative whole ('.' :: (fraction ++ later)) =
      (⟨false, decimalValue negative whole fraction 0, none⟩, later) := by
  have hfraction : fractionPart ('.' :: (fraction ++ later)) = (.present false fraction, later) :=
    digitsPart_append false hne hdigits hlater.endsDigits
  simp only [numberAfterWhole, hfraction, exponentPart_of_endsNumber hlater]

/-- The value of an exponent. -/
def exponentValue (negative : Bool) (digits : List Char) : Int :=
  if negative then -Digits.value digits else Digits.value digits

theorem numberAfterWhole_exponent (negative : Bool) (whole : List Char) {negativeExponent : Bool}
    (hne : digits ≠ []) (hdigits : ∀ c ∈ digits, c.isDigit = true) (hlater : EndsDigits later) :
    numberAfterWhole negative whole
        ('e' :: exponentSign negativeExponent :: (digits ++ later)) =
      (⟨false, decimalValue negative whole [] (exponentValue negativeExponent digits), none⟩,
        later) := by
  have hexponent := exponentPart_cons negativeExponent hne hdigits hlater
  simp only [numberAfterWhole, fractionPart_cons (show 'e' ≠ '.' by decide), hexponent,
    exponentValue]

theorem numberAfterWhole_fraction_exponent (negative : Bool) (whole : List Char)
    {fraction : List Char} {negativeExponent : Bool}
    (hfraction : fraction ≠ []) (hfractionDigits : ∀ c ∈ fraction, c.isDigit = true)
    (hne : digits ≠ []) (hdigits : ∀ c ∈ digits, c.isDigit = true) (hlater : EndsDigits later) :
    numberAfterWhole negative whole
        ('.' :: (fraction ++ 'e' :: exponentSign negativeExponent :: (digits ++ later))) =
      (⟨false, decimalValue negative whole fraction (exponentValue negativeExponent digits), none⟩,
        later) := by
  have hexponent := exponentPart_cons negativeExponent hne hdigits hlater
  have hpart : fractionPart
      ('.' :: (fraction ++ 'e' :: exponentSign negativeExponent :: (digits ++ later))) =
        (.present false fraction, 'e' :: exponentSign negativeExponent :: (digits ++ later)) :=
    digitsPart_append false hfraction hfractionDigits (endsDigits_cons (by decide) _)
  simp only [numberAfterWhole, hpart, hexponent, exponentValue]

/-! ## Decimals -/

/-- Whether a text is a literal with a point or an exponent, of this value. -/
def IsDecimalText (text : List Char) (value : ℚ) : Prop :=
  ∃ digit more, text = digit :: more ∧ digit.isDigit = true ∧
    ∀ negative later, EndsNumber later → ∃ (whole fraction : List Char) (exponent : ℤ),
      numberFrom negative digit (more ++ later) =
        (⟨false, decimalValue negative whole fraction exponent, none⟩, later) ∧
      Digits.value (whole ++ fraction) * 10 ^ (exponent - fraction.length) = value

theorem isWhole_toDigits (n : Nat) : IsWhole (Nat.toDigits 10 n) where
  isDigit := Digits.isDigit_toDigits
  leading := by
    by_cases hn : n = 0
    · subst hn
      exact ⟨'0', [], rfl, fun _ => rfl⟩
    · obtain ⟨digit, more, hdigits, hdigit⟩ := Digits.exists_toDigits_eq_cons hn
      exact ⟨digit, more, hdigits, fun hzero => absurd hzero hdigit⟩

theorem IsWhole.singleton {digit : Char} (h : digit.isDigit = true) : IsWhole [digit] where
  isDigit c hc := by rwa [List.mem_singleton.1 hc]
  leading := ⟨digit, [], rfl, fun _ => rfl⟩

theorem isDecimalText_point {whole fraction : List Char} (hwhole : IsWhole whole)
    (hne : fraction ≠ []) (hdigits : ∀ c ∈ fraction, c.isDigit = true) :
    IsDecimalText (whole ++ '.' :: fraction)
      (Digits.value (whole ++ fraction) * 10 ^ (-fraction.length : ℤ)) := by
  obtain ⟨digit, more, rfl, -⟩ := hwhole.leading
  refine ⟨digit, more ++ '.' :: fraction, rfl, hwhole.isDigit digit List.mem_cons_self, ?_⟩
  intro negative later hlater
  refine ⟨digit :: more, fraction, 0, ?_, by rw [zero_sub]⟩
  rw [List.append_assoc, List.cons_append,
    numberFrom_append negative hwhole (endsDigits_cons (by decide) _),
    numberAfterWhole_fraction negative _ hne hdigits hlater]

/-- Digits with zeros in front, so that one or more stand before the point. -/
def padded (digits : List Char) (places : Nat) : List Char :=
  List.replicate (places + 1 - digits.length) '0' ++ digits

section Padded

variable {digits : List Char} (places : Nat)

theorem length_padded :
    (padded digits places).length = places + 1 - digits.length + digits.length := by
  rw [padded, List.length_append, List.length_replicate]

theorem value_padded : Digits.value (padded digits places) = Digits.value digits := by
  rw [padded, Digits.value_append, Digits.value_replicate_zero, Nat.mul_zero, Nat.zero_add]

theorem isDigit_padded (hdigits : ∀ c ∈ digits, c.isDigit = true) :
    ∀ c ∈ padded digits places, c.isDigit = true := by
  intro c hc
  rw [padded, List.mem_append] at hc
  obtain hzero | hdigit := hc
  · rw [List.eq_of_mem_replicate hzero]
    rfl
  · exact hdigits c hdigit

/-- What stands before the point is a whole number: it starts like the digits, or it is a single
zero that was put there. -/
theorem isWhole_take_padded (hdigits : IsWhole digits) :
    IsWhole ((padded digits places).take ((padded digits places).length - places)) := by
  have hlength := @length_padded digits places
  refine ⟨fun c hc => isDigit_padded places hdigits.isDigit c (List.mem_of_mem_take hc), ?_⟩
  obtain ⟨digit, more, hcons, hleading⟩ := hdigits.leading
  obtain hnone | hsome := Nat.eq_zero_or_pos (places + 1 - digits.length)
  · obtain ⟨n, hn⟩ : ∃ n, (padded digits places).length - places = n + 1 :=
      ⟨_, (Nat.sub_one_add_one (by omega)).symm⟩
    refine ⟨digit, more.take n, ?_, fun hzero => by rw [hleading hzero, List.take_nil]⟩
    rw [hn, padded, hnone, List.replicate_zero, List.nil_append, hcons, List.take_succ_cons]
  · obtain ⟨n, hn⟩ : ∃ n, places + 1 - digits.length = n + 1 :=
      ⟨_, (Nat.sub_one_add_one hsome.ne').symm⟩
    have hone : (padded digits places).length - places = 1 := by omega
    refine ⟨'0', [], ?_, fun _ => rfl⟩
    rw [hone, padded, hn, List.replicate_succ, List.cons_append, List.take_succ_cons,
      List.take_zero]

theorem length_drop_padded :
    ((padded digits places).drop ((padded digits places).length - places)).length = places := by
  have hlength := @length_padded digits places
  rw [List.length_drop]
  omega

end Padded

/-- Digits with a point among them are a whole number, the point and the digits of the places, or a
zero if there are no places. -/
theorem exists_pointed_eq {digits : List Char} (hdigits : IsWhole digits) (places : Nat) :
    ∃ whole fraction,
      Decimal.pointed digits places =
        whole ++ '.' :: (if fraction.isEmpty then ['0'] else fraction) ∧
      IsWhole whole ∧ (∀ c ∈ fraction, c.isDigit = true) ∧ fraction.length = places ∧
      Digits.value (whole ++ fraction) = Digits.value digits := by
  refine ⟨(padded digits places).take ((padded digits places).length - places),
    (padded digits places).drop ((padded digits places).length - places), rfl,
    isWhole_take_padded places hdigits, fun c hc => ?_, length_drop_padded places, ?_⟩
  · exact isDigit_padded places hdigits.isDigit c (List.mem_of_mem_drop hc)
  · rw [List.take_append_drop, value_padded]

/-- Digits with a point among them are a literal of the value that the point gives them. -/
theorem isDecimalText_pointed {digits : List Char} (hdigits : IsWhole digits) (places : Nat) :
    IsDecimalText (Decimal.pointed digits places)
      (Digits.value digits * 10 ^ (-places : ℤ)) := by
  obtain ⟨whole, fraction, hpointed, hbefore, hafter, hlength, hvalue⟩ :=
    exists_pointed_eq hdigits places
  rw [hpointed]
  obtain rfl | hne := eq_or_ne fraction []
  · -- Without places a zero is written after the point, which does not change the value.
    have hliteral := isDecimalText_point hbefore (List.cons_ne_nil '0' []) (by simp [Char.isDigit])
    have hten : Digits.value (whole ++ ['0']) = 10 * Digits.value whole := by
      rw [Digits.value_append]
      rfl
    rw [List.append_nil] at hvalue
    rw [hten, hvalue] at hliteral
    rw [List.isEmpty_nil, if_pos rfl, ← hlength]
    convert hliteral using 1
    push_cast
    norm_num
    ring
  · have hliteral := isDecimalText_point hbefore hne hafter
    rw [hlength, hvalue] at hliteral
    rwa [if_neg (by simpa using hne)]

section Scientific

variable {digit : Char} (hdigit : digit.isDigit = true) (lead : ℤ)

/-- The exponent of the scientific form. -/
def exponentText (lead : ℤ) : List Char :=
  'e' :: exponentSign (decide (lead < 0)) :: Nat.toDigits 10 lead.natAbs

theorem exponentValue_toDigits (lead : ℤ) :
    exponentValue (decide (lead < 0)) (Nat.toDigits 10 lead.natAbs) = lead := by
  rw [exponentValue, Digits.value_toDigits]
  simp only [decide_eq_true_eq]
  split <;> omega

theorem endsDigits_exponentText (lead : ℤ) (later : List Char) :
    EndsDigits (exponentText lead ++ later) :=
  endsDigits_cons (by decide) _

include hdigit

/-- A digit with an exponent. -/
theorem isDecimalText_digit :
    IsDecimalText (digit :: exponentText lead) (Digits.value [digit] * 10 ^ lead) := by
  refine ⟨digit, _, rfl, hdigit, fun negative later hlater => ⟨[digit], [], lead, ?_, by simp⟩⟩
  have hread := numberFrom_append negative (.singleton hdigit) (endsDigits_exponentText lead later)
  rw [List.nil_append] at hread
  rw [hread, exponentText, List.cons_append, List.cons_append,
    numberAfterWhole_exponent negative _ Nat.toDigits_ne_nil Digits.isDigit_toDigits
      hlater.endsDigits, exponentValue_toDigits]

/-- A digit with a fraction and an exponent. -/
theorem isDecimalText_fraction {fraction : List Char} (hne : fraction ≠ [])
    (hfraction : ∀ c ∈ fraction, c.isDigit = true) :
    IsDecimalText (digit :: '.' :: (fraction ++ exponentText lead))
      (Digits.value (digit :: fraction) * 10 ^ (lead - fraction.length)) := by
  refine ⟨digit, _, rfl, hdigit, fun negative later hlater => ⟨[digit], fraction, lead, ?_, rfl⟩⟩
  have hread := numberFrom_append negative (.singleton hdigit)
    (endsDigits_cons (show '.'.isDigit = false by decide)
      (fraction ++ (exponentText lead ++ later)))
  rw [List.nil_append] at hread
  rw [List.cons_append, List.append_assoc, hread, exponentText, List.cons_append, List.cons_append,
    numberAfterWhole_fraction_exponent negative _ hne hfraction Nat.toDigits_ne_nil
      Digits.isDigit_toDigits hlater.endsDigits, exponentValue_toDigits]

end Scientific

/-- The exponent of the leading digit of a decimal. -/
def leadOf (d : Decimal) : ℤ :=
  d.exponent + (Nat.toDigits 10 d.digits).length - 1

theorem text_of_positional {layout : DecimalLayout} {d : Decimal}
    (h : layout.leastPositional ≤ leadOf d ∧ leadOf d ≤ layout.greatestPositional) :
    d.text layout = Decimal.pointed
      (Nat.toDigits 10 d.digits ++ List.replicate d.exponent.toNat '0') (-d.exponent).toNat :=
  if_pos h

theorem text_of_scientific {layout : DecimalLayout} {d : Decimal}
    (h : ¬(layout.leastPositional ≤ leadOf d ∧ leadOf d ≤ layout.greatestPositional))
    {digit : Char} {more : List Char} (hdigits : Nat.toDigits 10 d.digits = digit :: more) :
    d.text layout =
      if more = [] then digit :: exponentText (leadOf d)
      else digit :: '.' :: (more ++ exponentText (leadOf d)) := by
  have hsign : (if leadOf d < 0 then '-' else '+') = exponentSign (decide (leadOf d < 0)) := by
    simp [exponentSign]
  rw [exponentText, ← hsign]
  refine (if_neg h).trans ?_
  change _ ++ 'e' :: (if leadOf d < 0 then '-' else '+') :: Nat.toDigits 10 (leadOf d).natAbs = _
  rw [hdigits]
  cases more <;> rfl

theorem isWhole_append_zeros {d : Decimal} (hzero : d.digits = 0 → d.exponent = 0) :
    IsWhole (Nat.toDigits 10 d.digits ++ List.replicate d.exponent.toNat '0') := by
  obtain hdigits | hdigits := eq_or_ne d.digits 0
  · rw [hzero hdigits, Int.toNat_zero, List.replicate_zero, List.append_nil]
    exact isWhole_toDigits d.digits
  · obtain ⟨digit, more, hcons, hdigit⟩ := Digits.exists_toDigits_eq_cons hdigits
    refine ⟨fun c hc => ?_, digit, more ++ List.replicate d.exponent.toNat '0', ?_,
      fun h => absurd h hdigit⟩
    · obtain hdigit | hzeros := List.mem_append.1 hc
      · exact Digits.isDigit_toDigits c hdigit
      · rw [List.eq_of_mem_replicate hzeros]
        rfl
    · rw [hcons, List.cons_append]

/-- **The text of a decimal is a literal of its value**, positional or scientific. -/
theorem isDecimalText_text (layout : DecimalLayout) {d : Decimal}
    (hzero : d.digits = 0 → d.exponent = 0) : IsDecimalText (d.text layout) d.value := by
  have hten : (10 : ℚ) ≠ 0 := by norm_num
  by_cases hlayout : layout.leastPositional ≤ leadOf d ∧ leadOf d ≤ layout.greatestPositional
  · have hvalue : (Digits.value (Nat.toDigits 10 d.digits ++ List.replicate d.exponent.toNat '0') *
        10 ^ (-(-d.exponent).toNat : ℤ) : ℚ) = d.value := by
      rw [Digits.value_append, Digits.value_replicate_zero, List.length_replicate,
        Digits.value_toDigits, Decimal.value, Nat.add_zero, Nat.cast_mul, mul_comm (Nat.cast _),
        mul_assoc, Nat.cast_pow, ← zpow_natCast, Nat.cast_ofNat, ← zpow_add₀ hten]
      congr 2
      omega
    rw [text_of_positional hlayout, ← hvalue]
    exact isDecimalText_pointed (isWhole_append_zeros hzero) _
  · obtain ⟨digit, more, hdigits, -⟩ := (isWhole_toDigits d.digits).leading
    have hisDigit : ∀ c ∈ digit :: more, c.isDigit = true := hdigits ▸ Digits.isDigit_toDigits
    have hlead : leadOf d - more.length = d.exponent := by
      rw [leadOf, hdigits, List.length_cons]
      omega
    have hvalue : (Digits.value (digit :: more) * 10 ^ (leadOf d - more.length) : ℚ) = d.value := by
      rw [← hdigits, Digits.value_toDigits, hlead, Decimal.value]
    rw [text_of_scientific hlayout hdigits, ← hvalue]
    split
    · next hsingle =>
      subst hsingle
      simpa using isDecimalText_digit (hisDigit digit List.mem_cons_self) (leadOf d)
    · next hne =>
      exact isDecimalText_fraction (hisDigit digit List.mem_cons_self) (leadOf d) hne
        fun c hc => hisDigit c (List.mem_cons_of_mem _ hc)

/-! ## Numbers -/

/-- Whether a number is one that is kept when it is read: an integer has to fit into a word. -/
def Number.WellFormed : Number → Prop
  | .integer n => Number.IsWord n
  | .float _ => True

/-- A sign in front of the digits is read before them. -/
theorem scalarFrom_signed (negative : Bool) {digit : Char} (hdigit : digit.isDigit = true)
    (more : List Char) :
    ∃ c rest, (if negative then '-' :: digit :: more else digit :: more) = c :: rest ∧
      (c = '-' ∨ c.isDigit = true) ∧
      ∀ later, scalarFrom c (rest ++ later) = numberFrom negative digit (more ++ later) := by
  cases negative with
  | true =>
    refine ⟨'-', digit :: more, rfl, Or.inl rfl, fun later => ?_⟩
    simp [scalarFrom, negativeNumber, hdigit]
  | false =>
    refine ⟨digit, more, rfl, Or.inr hdigit, fun later => ?_⟩
    have hquote : digit ≠ '"' := by
      rintro rfl
      exact absurd hdigit (by decide)
    have hminus : digit ≠ '-' := by
      rintro rfl
      exact absurd hdigit (by decide)
    rw [scalarFrom, if_neg hquote, if_neg hminus, if_pos hdigit]

theorem integerValue_toDigits {n : ℤ} (hn : Number.IsWord n) :
    integerValue (decide (n < 0)) (Nat.toDigits 10 n.natAbs) = .ok (.number (.integer n)) := by
  have hvalue : (if decide (n < 0) = true then -(n.natAbs : ℤ) else n.natAbs) = n := by
    simp only [decide_eq_true_eq]
    split <;> omega
  have hzero : ¬(decide (n < 0) = true ∧ n.natAbs = 0) := by
    simp only [decide_eq_true_eq]
    omega
  simp only [integerValue, Digits.value_toDigits, hvalue, hn, hzero, not_false_eq_true, and_self,
    if_true]

theorem toList_toString_int (n : ℤ) :
    (toString n).toList =
      if decide (n < 0) then '-' :: Nat.toDigits 10 n.natAbs else Nat.toDigits 10 n.natAbs := by
  rw [Int.toString_eq_repr, Int.repr_eq_if]
  simp only [decide_eq_true_eq]
  obtain hneg | hnonneg := lt_or_ge n 0
  · rw [if_neg (not_le.2 hneg), if_pos hneg, String.toList_append, Nat.toList_repr,
      show (-n).toNat = n.natAbs by omega]
    rfl
  · rw [if_pos hnonneg, if_neg (not_lt.2 hnonneg), Nat.toList_repr,
      show n.toNat = n.natAbs by omega]

theorem minus_mem_toString_int (n : ℤ) : '-' ∈ (toString n).toList ↔ n < 0 := by
  have hdigits : '-' ∉ Nat.toDigits 10 n.natAbs :=
    fun hmem => absurd (Digits.isDigit_toDigits _ hmem) (by decide)
  rw [toList_toString_int]
  split
  · next hneg => exact iff_of_true List.mem_cons_self (of_decide_eq_true hneg)
  · next hnonneg => exact iff_of_false hdigits fun hneg => hnonneg (decide_eq_true hneg)

theorem value_filter_toString_int (n : ℤ) :
    Digits.value ((toString n).toList.filter Char.isDigit) = n.natAbs := by
  have hdigits : (Nat.toDigits 10 n.natAbs).filter Char.isDigit = Nat.toDigits 10 n.natAbs :=
    List.filter_eq_self.2 Digits.isDigit_toDigits
  rw [toList_toString_int]
  split
  · rw [List.filter_cons_of_neg (by decide), hdigits, Digits.value_toDigits]
  · rw [hdigits, Digits.value_toDigits]

/-- An integer is known from its text. -/
theorem eq_of_toString_int_eq {m n : ℤ} (h : toString m = toString n) : m = n := by
  have hsign : m < 0 ↔ n < 0 := by
    rw [← minus_mem_toString_int, h, minus_mem_toString_int]
  have hvalue : m.natAbs = n.natAbs := by
    rw [← value_filter_toString_int, h, value_filter_toString_int]
  omega

/-- **The text of a number is read as that number.** -/
theorem Number.scalarFrom_text {n : Number} (hn : n.WellFormed) :
    ∃ c rest, n.text.toList = c :: rest ∧ (c = '-' ∨ c.isDigit = true) ∧
      ∀ later, EndsNumber later →
        scalarFrom c (rest ++ later) = (.ofValue (.number n), later) := by
  cases n with
  | integer n =>
    obtain ⟨digit, more, hdigits, -⟩ := (isWhole_toDigits n.natAbs).leading
    have hwhole : IsWhole (digit :: more) := hdigits ▸ isWhole_toDigits n.natAbs
    obtain ⟨c, rest, htext, hc, hread⟩ := scalarFrom_signed (decide (n < 0))
      (hwhole.isDigit digit List.mem_cons_self) more
    refine ⟨c, rest, ?_, hc, fun later hlater => ?_⟩
    · rw [Number.text, toList_toString_int, hdigits, htext]
    · rw [hread, numberFrom_append _ hwhole hlater.endsDigits,
        numberAfterWhole_of_endsNumber _ _ hlater, ← hdigits, integerValue_toDigits hn]
      rfl
  | float x =>
    obtain ⟨digit, more, htext, hdigit, hdecimal⟩ := isDecimalText_text numberLayout
      x.exponent_shortest_of_digits_eq_zero
    obtain ⟨c, rest, hsigned, hc, hread⟩ := scalarFrom_signed x.negative hdigit more
    refine ⟨c, rest, ?_, hc, fun later hlater => ?_⟩
    · simp only [Number.text, Binary64.text, String.toList_ofList, htext, hsigned]
    · obtain ⟨whole, fraction, exponent, hnumber, hvalue⟩ := hdecimal x.negative later hlater
      rw [hread, hnumber, decimalValue, Binary64.ofDecimal?_of_value_eq hvalue]
      rfl

end Json

end Bindery
