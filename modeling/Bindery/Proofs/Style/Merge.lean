import Bindery.Proofs.Entries
import Bindery.Style.List

/-!
# Completed lists of styles

A list with one style of each kind is called *distinct*.  Reducing a list and completing it by
defaults keep every kind that occurs, once and where it first occurs (`map_kind_dedup`,
`map_kind_merge`).  Both are proved along the lists from their ends, where one more style is put
into what is reduced so far, and one more default is added to what is completed so far.  Two facts
follow that carry everything that is said about writing and reading styles.

* `distinct_dedup` and `distinct_merge`: reducing a list, or completing it by defaults, gives a
  distinct list, whatever the defaults are.
* `dedup_of_distinct` and `merge_merge`: a distinct list is not changed by reducing it, and a
  completed list is not changed by completing it once more.

The second is why a document that is written with its defaults and read again has the styles it had:
what was a default has become explicit, and completing it adds nothing.
-/

namespace Bindery

namespace Style

/-- A list with at most one style of each kind. -/
def Distinct (styles : List Style) : Prop :=
  (styles.map kind).Nodup

instance (styles : List Style) : Decidable (Distinct styles) :=
  inferInstanceAs (Decidable (styles.map kind).Nodup)

@[simp] theorem distinct_nil : Distinct [] :=
  List.nodup_nil

theorem distinct_append_singleton {styles : List Style} {style : Style} :
    Distinct (styles ++ [style]) ↔ Distinct styles ∧ style.kind ∉ styles.map kind := by
  simp only [Distinct, List.map_append, List.map_cons, List.map_nil, List.nodup_append,
    List.nodup_cons, List.not_mem_nil, not_false_eq_true, List.nodup_nil, and_self, true_and,
    List.mem_singleton]
  constructor
  · rintro ⟨hstyles, hne⟩
    exact ⟨hstyles, fun hmem => hne _ hmem _ rfl rfl⟩
  · rintro ⟨hstyles, hnew⟩
    refine ⟨hstyles, ?_⟩
    rintro k hk _ rfl rfl
    exact hnew hk

/-! ## Reducing -/

/-- Putting a style of a new kind appends it. -/
theorem put_of_new {style : Style} {styles : List Style} (h : style.kind ∉ styles.map kind) :
    put style styles = styles ++ [style] := by
  induction styles with
  | nil => rfl
  | cons s styles ih =>
    rw [List.map_cons, List.mem_cons, not_or] at h
    rw [put_cons, if_neg (Ne.symm h.1), ih h.2, List.cons_append]

/-- Putting a style of a kind that is there keeps the kinds. -/
theorem map_kind_put_of_mem {style : Style} {styles : List Style}
    (h : style.kind ∈ styles.map kind) : (put style styles).map kind = styles.map kind := by
  induction styles with
  | nil => exact absurd h List.not_mem_nil
  | cons s styles ih =>
    rw [put_cons]
    split
    · next hkind => rw [List.map_cons, List.map_cons, hkind]
    · next hkind =>
      rw [List.map_cons, List.mem_cons] at h
      rw [List.map_cons, List.map_cons, ih (h.resolve_left (Ne.symm hkind))]

theorem dedup_append_singleton (styles : List Style) (style : Style) :
    dedup (styles ++ [style]) = put style (dedup styles) :=
  List.foldl_append

/-- **The kinds of a reduced list**, each where it first occurs. -/
theorem map_kind_dedup (styles : List Style) :
    (dedup styles).map kind = (styles.map kind).eraseDups := by
  induction styles using List.reverseRecOn with
  | nil => rfl
  | append_singleton styles style ih =>
    have hmem : style.kind ∈ (dedup styles).map kind ↔ style.kind ∈ styles.map kind := by
      rw [ih, List.mem_eraseDups]
    rw [dedup_append_singleton, List.map_append, List.map_singleton, eraseDups_append_singleton]
    by_cases hold : style.kind ∈ styles.map kind
    · rw [if_pos hold, map_kind_put_of_mem (hmem.2 hold), ih]
    · rw [if_neg hold, put_of_new (mt hmem.1 hold), List.map_append, ih, List.map_singleton]

/-- **Reducing a list leaves one style of each kind.** -/
theorem distinct_dedup (styles : List Style) : Distinct (dedup styles) := by
  rw [Distinct, map_kind_dedup]
  exact nodup_eraseDups _

/-- **A list with one style of each kind is not changed by reducing it.** -/
theorem dedup_of_distinct {styles : List Style} (h : Distinct styles) : dedup styles = styles := by
  induction styles using List.reverseRecOn with
  | nil => rfl
  | append_singleton styles style ih =>
    obtain ⟨hstyles, hnew⟩ := distinct_append_singleton.1 h
    rw [dedup_append_singleton, ih hstyles, put_of_new hnew]

@[simp] theorem dedup_dedup (styles : List Style) : dedup (dedup styles) = dedup styles :=
  dedup_of_distinct (distinct_dedup styles)

/-- Reducing a list does not make it empty. -/
@[simp] theorem isEmpty_dedup (styles : List Style) : (dedup styles).isEmpty = styles.isEmpty := by
  rw [← List.isEmpty_map (f := kind), map_kind_dedup]
  cases styles with
  | nil => rfl
  | cons style styles => rw [List.map_cons, List.eraseDups_cons]; rfl

/-! ## Completing -/

theorem hasKind_iff {k : StyleKind} {styles : List Style} :
    hasKind k styles = true ↔ k ∈ styles.map kind := by
  simp [hasKind]

theorem merge_append_singleton (explicit defaults : List Style) (style : Style) :
    merge explicit (defaults ++ [style]) = addDefault (merge explicit defaults) style :=
  List.foldl_append

/-- **The kinds of a completed list**, each where it first occurs. -/
theorem map_kind_merge (explicit defaults : List Style) :
    (merge explicit defaults).map kind = ((explicit ++ defaults).map kind).eraseDups := by
  induction defaults using List.reverseRecOn with
  | nil => rw [merge, List.foldl_nil, map_kind_dedup, List.append_nil]
  | append_singleton defaults style ih =>
    have hmem : hasKind style.kind (merge explicit defaults) = true ↔
        style.kind ∈ (explicit ++ defaults).map kind := by
      rw [hasKind_iff, ih, List.mem_eraseDups]
    rw [merge_append_singleton, ← List.append_assoc, List.map_append, List.map_singleton,
      eraseDups_append_singleton, addDefault]
    by_cases hold : style.kind ∈ (explicit ++ defaults).map kind
    · rw [if_pos hold, if_pos (hmem.2 hold), ih]
    · rw [if_neg hold, if_neg (mt hmem.1 hold), List.map_append, ih, List.map_singleton]

/-- **Completing a list leaves one style of each kind.** -/
theorem distinct_merge (explicit defaults : List Style) : Distinct (merge explicit defaults) := by
  rw [Distinct, map_kind_merge]
  exact nodup_eraseDups _

/-- Defaults of kinds that are there add nothing. -/
theorem foldl_addDefault_of_subset {styles defaults : List Style}
    (h : ∀ style ∈ defaults, style.kind ∈ styles.map kind) :
    defaults.foldl addDefault styles = styles := by
  induction defaults with
  | nil => rfl
  | cons style defaults ih =>
    rw [List.forall_mem_cons] at h
    rw [List.foldl_cons, addDefault, if_pos (hasKind_iff.2 h.1), ih h.2]

/-- **Completing twice is completing once.** -/
@[simp] theorem merge_merge (explicit defaults : List Style) :
    merge (merge explicit defaults) defaults = merge explicit defaults := by
  have hdedup := dedup_of_distinct (distinct_merge explicit defaults)
  rw [merge, hdedup]
  apply foldl_addDefault_of_subset
  intro style hstyle
  rw [map_kind_merge, List.mem_eraseDups]
  exact List.mem_map_of_mem (List.mem_append_right explicit hstyle)

@[simp] theorem merge_dedup (explicit defaults : List Style) :
    merge (dedup explicit) defaults = merge explicit defaults := by
  rw [merge, dedup_dedup, merge]

/-- A list is completed to nothing only if there is nothing to complete it by. -/
theorem merge_eq_nil {explicit defaults : List Style} (h : merge explicit defaults = []) :
    defaults = [] := by
  have hkinds := map_kind_merge explicit defaults
  cases defaults with
  | nil => rfl
  | cons style defaults =>
    have hmem : style.kind ∈ ((explicit ++ style :: defaults).map kind).eraseDups := by simp
    rw [← hkinds, h] at hmem
    cases hmem

/-- A list holds the same styles as itself. -/
@[simp] theorem sameSet_self (styles : List Style) : sameSet styles styles = true := by
  simp only [sameSet, beq_self_eq_true, Bool.true_and, List.all_eq_true, List.any_eq_true]
  intro style hstyle
  exact ⟨style, hstyle, agree_self style⟩

end Style

end Bindery
