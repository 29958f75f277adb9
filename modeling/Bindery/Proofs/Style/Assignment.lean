import Bindery.Proofs.Doc.Equivalence
import Bindery.Proofs.Entries

/-!
# What a completed list assigns

A list of styles may name a kind several times.  Among the styles of a node the last one of a kind
counts, among defaults the first one, and a default counts only if the node has none of its kind.
The completed list says the same with one style of each kind.  Its kinds are those of the node and
then those of the defaults, each where it first occurs (`Style.map_kind_merge`), and the style of a
kind is the one that counts (`Style.firstOf?_merge`): putting in one more style of the node, or
adding one more default, changes what is found for its own kind and nothing else.

Two lists with one style of each kind hold the same styles exactly if they assign agreeing styles to
the same kinds (`Style.sameSet_iff`).  The left list is searched for in the right one only, but as
there are as many styles on either side, no kind on the right is left over.
-/

namespace Bindery

namespace Style

/-- The first style of a kind. -/
def firstOf? (kind : StyleKind) (styles : List Style) : Option Style :=
  styles.find? fun style => style.kind == kind

/-- The last style of a kind. -/
def lastOf? (kind : StyleKind) (styles : List Style) : Option Style :=
  firstOf? kind styles.reverse

@[simp] theorem firstOf?_nil (k : StyleKind) : firstOf? k [] = none := rfl

theorem firstOf?_cons (k : StyleKind) (style : Style) (styles : List Style) :
    firstOf? k (style :: styles) = if style.kind = k then some style else firstOf? k styles :=
  find?_cons_key kind style styles k

theorem firstOf?_append (k : StyleKind) (styles more : List Style) :
    firstOf? k (styles ++ more) = (firstOf? k styles).or (firstOf? k more) :=
  List.find?_append

/-- There is a first style of a kind if the kind is there at all. -/
theorem isSome_firstOf? {k : StyleKind} {styles : List Style} :
    (firstOf? k styles).isSome = true ↔ k ∈ styles.map kind := by
  simp [firstOf?]

theorem lastOf?_append_singleton (k : StyleKind) (styles : List Style) (style : Style) :
    lastOf? k (styles ++ [style]) = if style.kind = k then some style else lastOf? k styles := by
  rw [lastOf?, List.reverse_append, List.reverse_singleton, List.singleton_append, firstOf?_cons,
    lastOf?]

/-- Of a list with one style of each kind, every style is the first of its kind. -/
theorem Distinct.firstOf?_eq_some {styles : List Style} (h : Distinct styles) {k : StyleKind}
    {style : Style} : firstOf? k styles = some style ↔ style ∈ styles ∧ style.kind = k := by
  constructor
  · intro hfirst
    rw [firstOf?] at hfirst
    exact ⟨List.mem_of_find?_eq_some hfirst, by simpa using List.find?_some hfirst⟩
  · rintro ⟨hmem, rfl⟩
    exact find?_of_nodup kind h hmem

/-! ## One more style of a node -/

/-- Putting a style into a list changes what is found for its kind. -/
theorem firstOf?_put (k : StyleKind) (style : Style) (styles : List Style) :
    firstOf? k (put style styles) = if style.kind = k then some style else firstOf? k styles := by
  induction styles with
  | nil => rw [put_nil, firstOf?_cons]
  | cons s styles ih =>
    rw [put_cons]
    by_cases hplace : s.kind = style.kind
    · rw [if_pos hplace, firstOf?_cons, firstOf?_cons, hplace]
      split <;> rfl
    · rw [if_neg hplace, firstOf?_cons, firstOf?_cons, ih]
      by_cases hkind : style.kind = k
      · simp only [if_pos hkind, if_neg (hkind ▸ hplace)]
      · simp only [if_neg hkind]

/-- **The style of a kind in a reduced list** is the last one of the kind. -/
theorem firstOf?_dedup (k : StyleKind) (styles : List Style) :
    firstOf? k (dedup styles) = lastOf? k styles := by
  induction styles using List.reverseRecOn with
  | nil => rfl
  | append_singleton styles style ih =>
    rw [dedup_append_singleton, firstOf?_put, lastOf?_append_singleton, ih]

/-! ## One more default -/

/-- A default counts if there is no style of its kind. -/
theorem firstOf?_addDefault (k : StyleKind) (styles : List Style) (style : Style) :
    firstOf? k (addDefault styles style) = (firstOf? k styles).or (firstOf? k [style]) := by
  unfold addDefault
  split
  · next hold =>
    by_cases hkind : style.kind = k
    · subst hkind
      have hfound := isSome_firstOf?.2 (hasKind_iff.1 hold)
      rw [Option.or_of_isSome hfound]
    · rw [firstOf?_cons, if_neg hkind, firstOf?_nil, Option.or_none]
  · exact firstOf?_append k styles [style]

/-- **The style of a kind in a completed list** is the last explicit one, or else the first
default. -/
theorem firstOf?_merge (k : StyleKind) (explicit defaults : List Style) :
    firstOf? k (merge explicit defaults) = (lastOf? k explicit).or (firstOf? k defaults) := by
  induction defaults using List.reverseRecOn with
  | nil => rw [merge, List.foldl_nil, firstOf?_dedup, firstOf?_nil, Option.or_none]
  | append_singleton defaults style ih =>
    rw [merge_append_singleton, firstOf?_addDefault, ih, firstOf?_append, Option.or_assoc]

/-! ## The same styles -/

/-- **Two lists with one style of each kind hold the same styles** exactly if they assign agreeing
styles to the same kinds. -/
theorem sameSet_iff {a b : List Style} (ha : Distinct a) (hb : Distinct b) :
    sameSet a b = true ↔
      ∀ k, Scalar.agreeOption agree (firstOf? k a) (firstOf? k b) = true := by
  constructor
  · intro h k
    have hfound := h
    simp only [sameSet, Bool.and_eq_true, List.all_eq_true, List.any_eq_true] at hfound
    cases hleft : firstOf? k a with
    | none =>
      cases hright : firstOf? k b with
      | none => rfl
      | some other =>
        have hk : k ∈ b.map kind := isSome_firstOf?.1 (by rw [hright]; rfl)
        have hleftover := isSome_firstOf?.2 (kind_mem_of_sameSet ha h hk)
        rw [hleft] at hleftover
        cases hleftover
    | some style =>
      obtain ⟨hstyle, rfl⟩ := ha.firstOf?_eq_some.1 hleft
      obtain ⟨other, hother, hagree⟩ := hfound.2 style hstyle
      rw [hb.firstOf?_eq_some.2 ⟨hother, (kind_eq_of_agree hagree).symm⟩]
      exact hagree
  · intro h
    simp only [sameSet, Bool.and_eq_true, beq_iff_eq, List.all_eq_true, List.any_eq_true]
    have hkinds (k : StyleKind) : k ∈ a.map kind ↔ k ∈ b.map kind := by
      rw [← isSome_firstOf?, ← isSome_firstOf?]
      have hk := h k
      cases hleft : firstOf? k a <;> cases hright : firstOf? k b <;>
        simp_all [Scalar.agreeOption]
    refine ⟨?length, fun style hstyle => ?found⟩
    case length =>
      simpa using ((List.perm_ext_iff_of_nodup ha hb).2 hkinds).length_eq
    case found =>
      have hk := h style.kind
      rw [ha.firstOf?_eq_some.2 ⟨hstyle, rfl⟩] at hk
      cases hright : firstOf? style.kind b with
      | none => rw [hright] at hk; cases hk
      | some other =>
        rw [hright] at hk
        exact ⟨other, (hb.firstOf?_eq_some.1 hright).1, hk⟩

/-! ## Completed lists -/

/-- **A completed list** has one style of each kind that is there at all, in the order in which the
kinds first occur: the last explicit style of the kind, or else its first default.  So completing it
again changes nothing, reducing a list is completing it by nothing, and of two completed lists it
does not matter which is compared with which, since they are compared as assignments. -/
theorem merge_assigns (explicit defaults explicit' defaults' : List Style) :
    let completed := merge explicit defaults
    let completed' := merge explicit' defaults'
    (∀ k, (completed.map kind).count k =
        if k ∈ (explicit ++ defaults).map kind then 1 else 0) ∧
      completed.map kind = ((explicit ++ defaults).map kind).eraseDups ∧
      (∀ k, firstOf? k completed = (lastOf? k explicit).or (firstOf? k defaults)) ∧
      merge completed defaults = completed ∧
      (dedup explicit = merge explicit [] ∧ dedup (dedup explicit) = dedup explicit) ∧
      sameSet completed completed' = sameSet completed' completed ∧
      (sameSet completed completed' = true ↔
        ∀ k, Scalar.agreeOption agree (firstOf? k completed) (firstOf? k completed') = true) := by
  intro completed completed'
  have hdistinct : Distinct completed := distinct_merge explicit defaults
  have hdistinct' : Distinct completed' := distinct_merge explicit' defaults'
  have hkinds : completed.map kind = ((explicit ++ defaults).map kind).eraseDups :=
    map_kind_merge explicit defaults
  refine ⟨fun k => ?count, hkinds, fun k => firstOf?_merge k explicit defaults,
    merge_merge explicit defaults, ⟨rfl, dedup_dedup explicit⟩, sameSet_comm hdistinct hdistinct',
    sameSet_iff hdistinct hdistinct'⟩
  case count =>
    have hmem : k ∈ (explicit ++ defaults).map kind ↔ k ∈ completed.map kind := by
      rw [hkinds, List.mem_eraseDups]
    split
    · next hk => exact List.count_eq_one_of_mem hdistinct (hmem.1 hk)
    · next hk => exact List.count_eq_zero_of_not_mem (mt hmem.2 hk)

example :
    merge [.fontColor "a", .lineColor "b", .fontColor "c"]
        [.fontFamily "d", .lineColor "e", .fontFamily "f"] =
      [.fontColor "c", .lineColor "b", .fontFamily "d"] := by
  decide

end Style

end Bindery
