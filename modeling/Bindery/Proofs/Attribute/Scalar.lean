import Bindery.Attribute.Scalar

/-!
# Scalar attributes are read back

Reading what was written gives the value again (`Scalar.decode_encode`), for every type whose
absent values can be told from present ones.  An absent value is written as `null`, so a type must
not allow one absence inside another: `Scalar.WellFormed` says so, and every attribute of a node
and of a style is of such a type.

Equality of values is not the identity, because the two zeros are equal as numbers.  It is reflexive
and transitive (`Scalar.agree_self`, `Scalar.agree_trans`).
-/

namespace Bindery

/-! ## Results up to faults -/

section ToOption

variable {ε α β : Type}

theorem toOption_map (f : α → β) (result : Except ε α) :
    (f <$> result).toOption = result.toOption.map f := by
  cases result <;> rfl

theorem toOption_bind (result : Except ε α) (next : α → Except ε β) :
    (result >>= next).toOption = result.toOption.bind fun value => (next value).toOption := by
  cases result <;> rfl

end ToOption

namespace Scalar

/-! ## Reading back -/

/-- Whether every value of the type is present, and so never written as `null`. -/
def isPresent : Scalar → Bool
  | optional _ => false
  | _ => true

/-- Whether absence stands only around present values. -/
def WellFormed : Scalar → Bool
  | optional scalar => scalar.isPresent && scalar.WellFormed
  | sequence scalar => scalar.WellFormed
  | _ => true

/-- A present value is not written as `null`. -/
theorem encode_ne_null {scalar : Scalar} (h : scalar.isPresent = true) (value : scalar.Value) :
    scalar.encode value ≠ .null := by
  cases scalar with
  | optional _ => exact absurd h Bool.false_ne_true
  | flag | text | count | level | number | sequence => exact Json.noConfusion
  | listModel | lineType | cellMerge | horizontalAlign | verticalAlign | scaling | compression =>
    exact Json.noConfusion

theorem decodeChoice_encodeChoice {α : Type} [Enumeration α] (value : α) :
    decodeChoice (encodeChoice value) = .ok value := by
  simp [encodeChoice, decodeChoice, choiceNamed]

theorem decodeCount_toNat (value : UInt32) : decodeCount (.ofNat value.toNat) = .ok value := by
  have hrange : (0 : Int) ≤ value.toNat ∧ (value.toNat : Int) < 0x100000000 := by
    have := value.toNat_lt
    omega
  simp only [Json.ofNat, Json.ofInt, decodeCount, if_pos hrange, Int.toNat_natCast,
    UInt32.ofNat_toNat]

theorem decodeLevel_toInt (value : Int32) : decodeLevel (.ofInt value.toInt) = .ok value := by
  have hrange : -0x80000000 ≤ value.toInt ∧ value.toInt < 0x80000000 := by
    have hlow := value.le_toInt
    have hhigh := value.toInt_lt
    omega
  simp only [Json.ofInt, decodeLevel, if_pos hrange, Int32.ofInt_toInt]

theorem decodeItems_map {α : Type} {encode : α → Json} {decode : Json → Except Mismatch α}
    (h : ∀ value, decode (encode value) = .ok value) (values : List α) :
    decodeItems decode (values.map encode) = .ok values := by
  induction values with
  | nil => rfl
  | cons value values ih => rw [List.map_cons, decodeItems, h, ih]; rfl

/-- **What was written is read back.** -/
theorem decode_encode (scalar : Scalar) (h : scalar.WellFormed = true) (value : scalar.Value) :
    scalar.decode (scalar.encode value) = .ok value := by
  induction scalar with
  | flag | text | number => rfl
  | count => exact decodeCount_toNat value
  | level => exact decodeLevel_toInt value
  | listModel | lineType | cellMerge | horizontalAlign | verticalAlign | scaling | compression =>
    exact decodeChoice_encodeChoice value
  | optional scalar ih =>
    rw [WellFormed, Bool.and_eq_true] at h
    cases value with
    | none => rfl
    | some value =>
      have hread := ih h.2 value
      -- `null` has an equation of its own, and the general one asks for `hne`
      have hne := encode_ne_null h.1 value
      simp only [encode, Json.ofOption, decode]
      rw [hread]
      rfl
  | sequence scalar ih => exact decodeItems_map (ih h) value

/-- A type with absent values writes `null` for those only. -/
theorem encode_optional_eq_null {scalar : Scalar} (h : scalar.isPresent = true)
    {value : (optional scalar).Value} (hnull : (optional scalar).encode value = .null) :
    value = none := by
  cases value with
  | none => rfl
  | some value => exact absurd hnull (encode_ne_null h value)

/-! ## Equality -/

theorem agreeItems_map {α β : Type} {agree : α → β → Bool} {f : β → α} {items : List β}
    (h : ∀ item ∈ items, agree (f item) item = true) :
    agreeItems agree (items.map f) items = true := by
  induction items with
  | nil => rfl
  | cons item items ih =>
    rw [List.forall_mem_cons] at h
    rw [List.map_cons, agreeItems, h.1, ih h.2]
    rfl

theorem agreeOption_map {α β : Type} {agree : α → β → Bool} {f : β → α} {item : Option β}
    (h : ∀ value ∈ item, agree (f value) value = true) :
    agreeOption agree (item.map f) item = true := by
  cases item with
  | none => rfl
  | some value => exact h value rfl

/-- A value equals itself. -/
theorem agree_self (scalar : Scalar) (value : scalar.Value) : scalar.agree value value = true := by
  induction scalar with
  | number => exact Binary64.numEq_self value
  | optional scalar ih =>
    have h : agreeOption scalar.agree (Option.map id value) value = true :=
      agreeOption_map fun v _ => ih v
    rwa [Option.map_id] at h
  | sequence scalar ih =>
    have h : agreeItems scalar.agree (List.map id value) value = true :=
      agreeItems_map fun v _ => ih v
    rwa [List.map_id] at h
  | flag | text | count | level => exact beq_self_eq_true value
  | listModel | lineType | cellMerge | horizontalAlign | verticalAlign | scaling | compression =>
    exact beq_self_eq_true value

theorem agreeItems_trans {α : Type} {agree : α → α → Bool} {as bs cs : List α}
    (htrans : ∀ a ∈ as, ∀ b c, agree a b = true → agree b c = true → agree a c = true)
    (hab : agreeItems agree as bs = true) (hbc : agreeItems agree bs cs = true) :
    agreeItems agree as cs = true := by
  induction as generalizing bs cs with
  | nil =>
    cases bs with
    | nil => exact hbc
    | cons b bs => exact absurd hab Bool.false_ne_true
  | cons a as ih =>
    cases bs with
    | nil => exact absurd hab Bool.false_ne_true
    | cons b bs =>
      cases cs with
      | nil => exact absurd hbc Bool.false_ne_true
      | cons c cs =>
        rw [List.forall_mem_cons] at htrans
        rw [agreeItems, Bool.and_eq_true] at hab hbc ⊢
        exact ⟨htrans.1 b c hab.1 hbc.1, ih htrans.2 hab.2 hbc.2⟩

theorem agreeOption_trans {α : Type} {agree : α → α → Bool} {a? b? c? : Option α}
    (htrans : ∀ a ∈ a?, ∀ b c, agree a b = true → agree b c = true → agree a c = true)
    (hab : agreeOption agree a? b? = true) (hbc : agreeOption agree b? c? = true) :
    agreeOption agree a? c? = true := by
  cases a? with
  | none =>
    cases b? with
    | none => exact hbc
    | some b => exact absurd hab Bool.false_ne_true
  | some a =>
    cases b? with
    | none => exact absurd hab Bool.false_ne_true
    | some b =>
      cases c? with
      | none => exact absurd hbc Bool.false_ne_true
      | some c => exact htrans a rfl b c hab hbc

/-- Numbers that are equal to the same number are equal. -/
theorem numEq_trans {x y z : Binary64} (hxy : x.numEq y = true) (hyz : y.numEq z = true) :
    x.numEq z = true := by
  simp only [Binary64.numEq, Bool.or_eq_true, beq_iff_eq, Bool.and_eq_true] at hxy hyz ⊢
  rcases hxy with rfl | ⟨hx, hy⟩
  · exact hyz
  · rcases hyz with rfl | ⟨-, hz⟩
    · exact Or.inr ⟨hx, hy⟩
    · exact Or.inr ⟨hx, hz⟩

/-- **Equality of values is transitive.** -/
theorem agree_trans (scalar : Scalar) {a b c : scalar.Value} (hab : scalar.agree a b = true)
    (hbc : scalar.agree b c = true) : scalar.agree a c = true := by
  induction scalar with
  | number => exact numEq_trans hab hbc
  | optional scalar ih => exact agreeOption_trans (fun _ _ _ _ => ih) hab hbc
  | sequence scalar ih => exact agreeItems_trans (fun _ _ _ _ => ih) hab hbc
  | flag | text | count | level => exact eq_of_beq hab ▸ hbc
  | listModel | lineType | cellMerge | horizontalAlign | verticalAlign | scaling | compression =>
    exact eq_of_beq hab ▸ hbc

end Scalar

end Bindery
