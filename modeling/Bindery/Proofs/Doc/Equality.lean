import Bindery.Proofs.Doc.RoundTrip

/-!
# Equality of documents

Two documents are equal if they have the same attributes, numbers being compared as numbers, and the
same styles once these are completed by the defaults.  This is coarser than identity: zeros of both
signs are equal, styles may be listed in another order, and a default may be explicit.  So that it
is transitive (`Doc.agree_trans`) has to be carried from the values of attributes through records
and layers to trees.

A layer is compared with the nodes below it in place (`Doc.agree_node_eq`), and from then on
equality is a statement about records of documents.
-/

namespace Bindery

/-! ## Styles -/

namespace Style

theorem agree_trans {a b c : Style} (hab : a.agree b = true) (hbc : b.agree c = true) :
    a.agree c = true := by
  have hkind := kind_eq_of_agree hab
  have hkind' := kind_eq_of_agree hbc
  cases a <;> cases b <;> cases hkind <;> cases c <;> cases hkind'
  case width | height | fontSize => exact Scalar.numEq_trans hab hbc
  case padding =>
    simp only [agree, Bool.and_eq_true] at hab hbc ⊢
    obtain ⟨⟨⟨htop, hright⟩, hbottom⟩, hleft⟩ := hab
    obtain ⟨⟨⟨htop', hright'⟩, hbottom'⟩, hleft'⟩ := hbc
    exact ⟨⟨⟨Scalar.numEq_trans htop htop', Scalar.numEq_trans hright hright'⟩,
      Scalar.numEq_trans hbottom hbottom'⟩, Scalar.numEq_trans hleft hleft'⟩
  case alignment =>
    simp only [agree, Bool.and_eq_true, beq_iff_eq] at hab hbc ⊢
    exact ⟨hab.1.trans hbc.1, hab.2.trans hbc.2⟩
  case fontFamily | fontColor | imageScaling | imageCompression | lineColor =>
    exact eq_of_beq hab ▸ hbc

theorem sameSet_trans {a b c : List Style} (hab : sameSet a b = true) (hbc : sameSet b c = true) :
    sameSet a c = true := by
  simp only [sameSet, Bool.and_eq_true, beq_iff_eq, List.all_eq_true, List.any_eq_true] at hab hbc ⊢
  refine ⟨hab.1.trans hbc.1, fun style hstyle => ?_⟩
  obtain ⟨other, hother, hagree⟩ := hab.2 style hstyle
  obtain ⟨third, hthird, hagree'⟩ := hbc.2 other hother
  exact ⟨third, hthird, agree_trans hagree hagree'⟩

end Style

/-! ## Records -/

section Records

variable {ν μ ρ σ : Type}

theorem AttributeType.map_id (type : AttributeType) (value : type.Value ν) :
    type.map id value = value := by
  cases type with
  | scalar s => rfl
  | node => exact congrFun Option.map_id value
  | nodes => exact List.map_id value

theorem Record.map_id (schema : Schema) (record : Record ν schema) :
    Record.map id schema record = record := by
  induction schema with
  | nil => rfl
  | cons field schema ih => rw [Record.map, AttributeType.map_id, ih]

theorem Parts.map_id {family : NodeFamily} (parts : Parts family ν) : parts.map id = parts := by
  simp only [Parts.map, Record.map_id]

/-- Comparing with nodes replaced is comparing in the replaced sense. -/
theorem AttributeType.agree_map_map {same : ν → μ → Bool} {same' : ρ → σ → Bool} {f : ρ → ν}
    {g : σ → μ} {type : AttributeType} {a : type.Value ρ} (b : type.Value σ)
    (h : ∀ x ∈ type.nodesIn a, ∀ y, same (f x) (g y) = same' x y) :
    type.agree same (type.map f a) (type.map g b) = type.agree same' a b := by
  cases type with
  | scalar s => rfl
  | node =>
    cases a with
    | none => cases b <;> rfl
    | some x =>
      cases b with
      | none => rfl
      | some y => exact h x (List.mem_singleton_self x) y
  | nodes =>
    induction a generalizing b with
    | nil => cases b <;> rfl
    | cons x a ih =>
      cases b with
      | nil => rfl
      | cons y b =>
        have hrest := ih b fun x hx => h x (List.mem_cons_of_mem _ hx)
        simp only [agree, map, List.map_cons, Scalar.agreeItems] at hrest ⊢
        rw [h x List.mem_cons_self y, hrest]

theorem Record.agree_map_map {same : ν → μ → Bool} {same' : ρ → σ → Bool} {f : ρ → ν} {g : σ → μ}
    {schema : Schema} {a : Record ρ schema} (b : Record σ schema)
    (h : ∀ x ∈ Record.nodes schema a, ∀ y, same (f x) (g y) = same' x y) :
    Record.agree same schema (Record.map f schema a) (Record.map g schema b) =
      Record.agree same' schema a b := by
  induction schema with
  | nil => rfl
  | cons field schema ih =>
    simp only [Record.nodes, List.mem_append] at h
    rw [Record.agree, Record.agree, Record.map, Record.map, ih _ fun x hx => h x (Or.inr hx),
      AttributeType.agree_map_map _ fun x hx => h x (Or.inl hx)]

theorem AttributeType.agree_trans {same : ν → ν → Bool} {type : AttributeType}
    {a b c : type.Value ν}
    (htrans : ∀ x ∈ type.nodesIn a, ∀ y z, same x y = true → same y z = true → same x z = true)
    (hab : type.agree same a b = true) (hbc : type.agree same b c = true) :
    type.agree same a c = true := by
  cases type with
  | scalar s => exact s.agree_trans hab hbc
  | node =>
    exact Scalar.agreeOption_trans (fun x hx => htrans x (Option.mem_toList.2 hx)) hab hbc
  | nodes => exact Scalar.agreeItems_trans htrans hab hbc

theorem Record.agree_trans {same : ν → ν → Bool} {schema : Schema} {a b c : Record ν schema}
    (htrans : ∀ x ∈ Record.nodes schema a,
      ∀ y z, same x y = true → same y z = true → same x z = true)
    (hab : Record.agree same schema a b = true) (hbc : Record.agree same schema b c = true) :
    Record.agree same schema a c = true := by
  induction schema with
  | nil => rfl
  | cons field schema ih =>
    simp only [Record.nodes, List.mem_append] at htrans
    rw [Record.agree, Bool.and_eq_true] at hab hbc ⊢
    exact ⟨AttributeType.agree_trans (fun x hx => htrans x (Or.inl hx)) hab.1 hbc.1,
      ih (fun x hx => htrans x (Or.inr hx)) hab.2 hbc.2⟩

end Records

/-! ## Nodes -/

namespace NodeFamily

variable {ν μ ρ σ : Type} {family : NodeFamily}

/-- Comparing nodes with the nodes below them replaced is comparing them in the replaced sense. -/
theorem agree_map_map {sameStyles : Parts family ν → Parts family μ → Bool} {same : ν → μ → Bool}
    {same' : ρ → σ → Bool} {f : ρ → ν} {g : σ → μ} {a : Parts family ρ} (b : Parts family σ)
    (h : ∀ x ∈ a.nodes, ∀ y, same (f x) (g y) = same' x y) :
    family.agree sameStyles same (a.map f) (b.map g) =
      family.agree (fun a b => sameStyles (a.map f) (b.map g)) same' a b := by
  obtain ⟨kind, styles, shared, own⟩ := a
  obtain ⟨kind', styles', shared', own'⟩ := b
  simp only [Parts.nodes, List.mem_append] at h
  dsimp only [agree, Parts.map]
  by_cases hkind : kind' = kind
  · subst hkind
    rw [dif_pos rfl, dif_pos rfl, Record.agree_map_map shared' fun x hx => h x (Or.inl hx),
      Record.agree_map_map own' fun x hx => h x (Or.inr hx)]
  · rw [dif_neg hkind, dif_neg hkind]

/-- Nodes that differ in their styles only are equal to the same nodes. -/
theorem agree_congr_styles {sameStyles sameStyles' : Parts family ν → Parts family μ → Bool}
    {same : ν → μ → Bool} {a : Parts family ν} {b : Parts family μ} {styles styles' : List Style}
    (h : sameStyles { a with styles } { b with styles := styles' } = sameStyles' a b) :
    family.agree sameStyles same { a with styles } { b with styles := styles' } =
      family.agree sameStyles' same a b := by
  simp only [agree, h]

/-- **Equality of nodes is transitive** if that of their styles and of the nodes below is. -/
theorem agree_trans {sameStyles : Parts family ν → Parts family ν → Bool} {same : ν → ν → Bool}
    {a b c : Parts family ν}
    (hstyles : sameStyles a b = true → sameStyles b c = true → sameStyles a c = true)
    (htrans : ∀ x ∈ a.nodes, ∀ y z, same x y = true → same y z = true → same x z = true)
    (hab : family.agree sameStyles same a b = true)
    (hbc : family.agree sameStyles same b c = true) : family.agree sameStyles same a c = true := by
  obtain ⟨kind, styles, shared, own⟩ := a
  obtain ⟨kind', styles', shared', own'⟩ := b
  obtain ⟨kind'', styles'', shared'', own''⟩ := c
  simp only [Parts.nodes, List.mem_append] at htrans
  -- nodes of different kinds are different, so all three are of one kind
  unfold agree at hab hbc
  split at hab
  · next hkind =>
    split at hbc
    · next hkind' =>
      dsimp only at hkind hkind'
      subst hkind hkind'
      rw [Bool.and_eq_true, Bool.and_eq_true] at hab hbc
      rw [agree, dif_pos rfl, Bool.and_eq_true, Bool.and_eq_true]
      exact ⟨⟨Record.agree_trans (fun x hx => htrans x (Or.inl hx)) hab.1.1 hbc.1.1,
        Record.agree_trans (fun x hx => htrans x (Or.inr hx)) hab.1.2 hbc.1.2⟩,
        hstyles hab.2 hbc.2⟩
    · exact absurd hbc Bool.false_ne_true
  · exact absurd hab Bool.false_ne_true

end NodeFamily

/-! ## Documents -/

namespace Doc

/-- Whether two layers have the same styles in full. -/
def sameStyles {ν μ : Type} (a : Parts family ν) (b : Parts family μ) : Bool :=
  Style.sameSet (effectiveStyles a.styles a.kind) (effectiveStyles b.styles b.kind)

/-- Two nodes are equal if their layers are, where the nodes below are compared as documents. -/
theorem agree_node_eq (head head' : Head) (kind kind' : Kind Doc) :
    agree (node head kind) (node head' kind') =
      family.agree sameStyles agree (parts head kind) (parts head' kind') := by
  have hright : (parts head' kind').map id = parts head' kind' := Parts.map_id _
  rw [agree_node, parts_map, ← hright, NodeFamily.agree_map_map _ fun _ _ _ => rfl, hright]
  rfl

@[simp] theorem agree_self (doc : Doc) : doc.agree doc = true := by
  induction doc using induct with
  | step head kind ih =>
    have hbelow : ∀ child ∈ (parts head kind).nodes, child.agree child = true := by
      rw [nodes_parts]
      exact ih
    rw [agree_node, parts_map]
    exact (NodeFamily.agree_map (fun (same : Doc → Bool) child => same child) agree
      (parts head kind).styles hbelow).trans (Style.sameSet_self _)

/-- **Equality of documents is transitive.** -/
theorem agree_trans {a b c : Doc} (hab : a.agree b = true) (hbc : b.agree c = true) :
    a.agree c = true := by
  induction a using induct generalizing b c with
  | step head kind ih =>
    obtain ⟨head', kind'⟩ := b
    obtain ⟨head'', kind''⟩ := c
    rw [agree_node_eq] at hab hbc ⊢
    refine NodeFamily.agree_trans Style.sameSet_trans (fun child hchild => ?_) hab hbc
    rw [nodes_parts] at hchild
    exact fun _ _ => ih child hchild

end Doc

end Bindery
