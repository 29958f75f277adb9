import Bindery.Proofs.Doc.Equality
import Mathlib.Data.List.Perm.Subperm

/-!
# Equality of documents is an equivalence

Documents are compared from the left: every style of the first has to be among those of the second,
and there have to be as many on either side.  Of arbitrary lists that is no symmetric relation,
because one style listed twice on the left may meet one style of two on the right.  A node however
is compared with its styles in full, and a completed list has one style of each kind
(`Style.distinct_merge`).  Between such lists the kinds on both sides are the same by counting, and
then each style on the right is the one that its counterpart on the left was found equal to
(`Style.sameSet_symm`).

From there the order of the sides is exchanged for values, records and layers (`agree_swap`), where
the nodes below are compared in the exchanged sense as well, and induction on the first document
does the rest (`Doc.agree_comm`).

The numbers of a document are finite, as all numbers that are read from a text.
-/

namespace Bindery

/-! ## Values -/

theorem Binary64.numEq_comm (x y : Binary64) : x.numEq y = y.numEq x := by
  rw [numEq, numEq, Bool.and_comm, BEq.comm]

namespace Scalar

variable {α β : Type}

theorem agreeItems_swap (agree : α → β → Bool) (as : List α) (bs : List β) :
    agreeItems agree as bs = agreeItems (fun b a => agree a b) bs as := by
  induction as generalizing bs with
  | nil => cases bs <;> rfl
  | cons a as ih =>
    cases bs with
    | nil => rfl
    | cons b bs => rw [agreeItems, agreeItems, ih]

theorem agreeOption_swap (agree : α → β → Bool) (a? : Option α) (b? : Option β) :
    agreeOption agree a? b? = agreeOption (fun b a => agree a b) b? a? := by
  cases a? <;> cases b? <;> rfl

/-- **Equality of values is symmetric.** -/
theorem agree_comm (scalar : Scalar) (a b : scalar.Value) :
    scalar.agree a b = scalar.agree b a := by
  induction scalar with
  | number => exact Binary64.numEq_comm a b
  | optional scalar ih =>
    have hsame : (fun b a => scalar.agree a b) = scalar.agree := funext₂ fun b a => ih a b
    rw [agree, agreeOption_swap, hsame]
  | sequence scalar ih =>
    have hsame : (fun b a => scalar.agree a b) = scalar.agree := funext₂ fun b a => ih a b
    rw [agree, agreeItems_swap, hsame]
  | flag | text | count | level => exact BEq.comm
  | listModel | lineType | cellMerge | horizontalAlign | verticalAlign | scaling | compression =>
    exact BEq.comm

end Scalar

/-! ## Styles -/

namespace Style

theorem agree_comm (a b : Style) : a.agree b = b.agree a := by
  cases a <;> cases b <;> simp only [agree]
  case width | height | fontSize => exact Binary64.numEq_comm _ _
  case alignment.alignment h v h' v' => rw [BEq.comm (a := h), BEq.comm (a := v)]
  case padding.padding t r b l t' r' b' l' =>
    rw [t.numEq_comm, r.numEq_comm, b.numEq_comm, l.numEq_comm]
  case fontFamily | fontColor | imageScaling | imageCompression | lineColor => exact BEq.comm

/-- A style of a distinct list is determined by its kind. -/
theorem Distinct.eq_of_kind_eq {styles : List Style} (h : Distinct styles) {a b : Style}
    (ha : a ∈ styles) (hb : b ∈ styles) (hkind : a.kind = b.kind) : a = b :=
  List.inj_on_of_nodup_map h ha hb hkind

/-- Lists that hold the same styles have the same kinds, if there is one style of each kind. -/
theorem kind_mem_of_sameSet {a b : List Style} (ha : Distinct a) (h : sameSet a b = true)
    {k : StyleKind} (hk : k ∈ b.map kind) : k ∈ a.map kind := by
  simp only [sameSet, Bool.and_eq_true, beq_iff_eq, List.all_eq_true, List.any_eq_true] at h
  obtain ⟨hlength, hfound⟩ := h
  have hsubset : a.map kind ⊆ b.map kind := by
    intro k' hk'
    obtain ⟨style, hstyle, rfl⟩ := List.mem_map.1 hk'
    obtain ⟨other, hother, hagree⟩ := hfound style hstyle
    exact List.mem_map.2 ⟨other, hother, (kind_eq_of_agree hagree).symm⟩
  -- there are as many kinds on the left, all of them different, so none is left over on the right
  have hperm : (a.map kind).Perm (b.map kind) :=
    (List.subperm_of_subset ha hsubset).perm_of_length_le (by simp [hlength])
  exact hperm.mem_iff.2 hk

/-- **Holding the same styles is symmetric** between lists with one style of each kind. -/
theorem sameSet_symm {a b : List Style} (ha : Distinct a) (hb : Distinct b)
    (h : sameSet a b = true) : sameSet b a = true := by
  have hkinds (style : Style) (hstyle : style ∈ b) : ∃ other ∈ a, other.kind = style.kind :=
    List.mem_map.1 (kind_mem_of_sameSet ha h (List.mem_map.2 ⟨style, hstyle, rfl⟩))
  simp only [sameSet, Bool.and_eq_true, beq_iff_eq, List.all_eq_true, List.any_eq_true] at h ⊢
  obtain ⟨hlength, hfound⟩ := h
  refine ⟨hlength.symm, fun style hstyle => ?_⟩
  obtain ⟨other, hother, hkind⟩ := hkinds style hstyle
  obtain ⟨third, hthird, hagree⟩ := hfound other hother
  have hthis : third = style :=
    hb.eq_of_kind_eq hthird hstyle ((kind_eq_of_agree hagree).symm.trans hkind)
  subst hthis
  exact ⟨other, hother, (agree_comm _ _).trans hagree⟩

theorem sameSet_comm {a b : List Style} (ha : Distinct a) (hb : Distinct b) :
    sameSet a b = sameSet b a :=
  Bool.eq_iff_iff.2 ⟨sameSet_symm ha hb, sameSet_symm hb ha⟩

-- not so of lists with two styles of a kind
example :
    sameSet [.fontColor "a", .fontColor "a"] [.fontColor "a", .fontColor "b"] = true ∧
      sameSet [.fontColor "a", .fontColor "b"] [.fontColor "a", .fontColor "a"] = false := by
  decide

end Style

/-! ## Records and layers -/

section Records

variable {ν μ : Type}

theorem AttributeType.agree_swap (same : ν → μ → Bool) (type : AttributeType) (a : type.Value ν)
    (b : type.Value μ) :
    type.agree same a b = type.agree (fun y x => same x y) b a := by
  cases type with
  | scalar scalar => exact scalar.agree_comm a b
  | node => exact Scalar.agreeOption_swap same a b
  | nodes => exact Scalar.agreeItems_swap same a b

theorem Record.agree_swap (same : ν → μ → Bool) (schema : Schema) (a : Record ν schema)
    (b : Record μ schema) :
    Record.agree same schema a b = Record.agree (fun y x => same x y) schema b a := by
  induction schema with
  | nil => rfl
  | cons field schema ih => rw [Record.agree, Record.agree, AttributeType.agree_swap, ih]

end Records

namespace NodeFamily

variable {ν μ : Type} {family : NodeFamily}

theorem agree_swap (sameStyles : Parts family ν → Parts family μ → Bool) (same : ν → μ → Bool)
    (a : Parts family ν) (b : Parts family μ) :
    family.agree sameStyles same a b =
      family.agree (fun b a => sameStyles a b) (fun y x => same x y) b a := by
  obtain ⟨kind, styles, shared, own⟩ := a
  obtain ⟨kind', styles', shared', own'⟩ := b
  by_cases hkind : kind' = kind
  · subst hkind
    rw [agree, agree, dif_pos rfl, dif_pos rfl, Record.agree_swap same family.shared,
      Record.agree_swap same (family.own _)]
  · rw [agree, agree, dif_neg hkind, dif_neg (Ne.symm hkind)]

/-- Only the nodes of the left side are asked what they are equal to. -/
theorem agree_congr {sameStyles : Parts family ν → Parts family μ → Bool}
    {same same' : ν → μ → Bool} {a : Parts family ν} (b : Parts family μ)
    (h : ∀ x ∈ a.nodes, ∀ y, same x y = same' x y) :
    family.agree sameStyles same a b = family.agree sameStyles same' a b := by
  have hmap : family.agree sameStyles same (a.map id) (b.map id) =
      family.agree (fun a b => sameStyles (a.map id) (b.map id)) same' a b :=
    agree_map_map b h
  simpa only [Parts.map_id] using hmap

end NodeFamily

/-! ## Documents -/

namespace Doc

theorem sameStyles_comm {ν μ : Type} (a : Parts family ν) (b : Parts family μ) :
    sameStyles a b = sameStyles b a :=
  Style.sameSet_comm (Style.distinct_merge _ _) (Style.distinct_merge _ _)

/-- **Equality of documents is symmetric.** -/
theorem agree_comm (a b : Doc) : a.agree b = b.agree a := by
  induction a using induct generalizing b with
  | step head kind ih =>
    obtain ⟨head', kind'⟩ := b
    have hbelow : ∀ child ∈ (parts head kind).nodes,
        ∀ other, agree child other = agree other child := by
      rw [nodes_parts]
      exact ih
    have hstyles : (fun b a : Parts family Doc => sameStyles a b) = sameStyles :=
      funext₂ fun b a => sameStyles_comm a b
    calc (node head kind).agree (node head' kind')
      _ = family.agree sameStyles agree (parts head kind) (parts head' kind') :=
        agree_node_eq head head' kind kind'
      _ = family.agree sameStyles (fun x y => agree y x) (parts head kind) (parts head' kind') :=
        NodeFamily.agree_congr _ hbelow
      _ = family.agree sameStyles agree (parts head' kind') (parts head kind) := by
        rw [NodeFamily.agree_swap, hstyles]
      _ = (node head' kind').agree (node head kind) := (agree_node_eq head' head kind' kind).symm

/-- **Equality of documents is an equivalence**, however their styles are listed: in any order, and
with several styles of a kind. -/
theorem agree_equivalence : Equivalence fun a b : Doc => a.agree b = true where
  refl := agree_self
  symm := by
    intro a b h
    rw [agree_comm, h]
  trans := agree_trans

end Doc

end Bindery
