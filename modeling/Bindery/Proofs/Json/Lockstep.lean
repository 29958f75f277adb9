import Bindery.AccessPath
import Bindery.Format.Placeholder
import Bindery.Proofs.Json.Keys

/-!
# Models in lockstep

Two models are in *lockstep* if following the same access paths in both leads to values of which the
same can be read.  A relation between values says so (`Json.Lockstep`) if related values are of one
kind, scalars are equal, the items of arrays are related one by one, and looking up one of the given
names in two objects either fails in both or gives related values (`Json.Step`).  Nothing is said
about the entries of an object one by one, and so their number, their order and their keys may
differ as long as no look-up of a name can tell.

Such a relation is what goes through binding, since binding goes from scope to scope by following
paths and going through the items of arrays (`Json.Lockstep.resolve`, `Json.Lockstep.scopes`).  That
values have one form after their keys were replaced is such a relation, for both ways of replacing
them (`Json.lockstep_restrict`, `Json.lockstep_foldKeys`).
-/

namespace Bindery

namespace Json

/-- Two values that are of one kind and have related parts.  Of objects, only the look-up of the
names counts. -/
inductive Step (names : List String) (R : Json → Json → Prop) : Json → Json → Prop
  | null : Step names R .null .null
  | bool (value : Bool) : Step names R (.bool value) (.bool value)
  | number (value : Number) : Step names R (.number value) (.number value)
  | string (value : String) : Step names R (.string value) (.string value)
  | array {items items' : List Json} (h : List.Forall₂ R items items') :
      Step names R (.array items) (.array items')
  | object {entries entries' : List (String × Json)}
      (h : ∀ name ∈ names,
        Option.Rel R (Entries.find? entries name) (Entries.find? entries' name)) :
      Step names R (.object entries) (.object entries')

/-- **Lockstep**: related values have related parts. -/
structure Lockstep (names : List String) (R : Json → Json → Prop) : Prop where
  null : R .null .null
  step : ∀ {a b : Json}, R a b → Step names R a b

/-! ## Reading a value -/

section Step

variable {names : List String} {R : Json → Json → Prop} {a b : Json}

theorem Step.string?_eq (h : Step names R a b) : a.string? = b.string? := by
  cases h <;> rfl

theorem Step.plainText?_eq (h : Step names R a b) : a.plainText? = b.plainText? := by
  cases h <;> rfl

theorem Step.binary64?_eq (h : Step names R a b) : a.binary64? = b.binary64? := by
  cases h <;> rfl

end Step

/-! ## Following paths -/

namespace Lockstep

variable {names : List String} {R : Json → Json → Prop} (hR : Lockstep names R)

include hR

/-- The keys of a path lead to related values in both, or nowhere. -/
theorem follow? {keys : List String} (hkeys : ∀ key ∈ keys, key ∈ names) {a b : Json}
    (hab : R a b) : Option.Rel R (AccessPath.follow? keys a) (AccessPath.follow? keys b) := by
  induction keys generalizing a b with
  | nil => exact .some hab
  | cons key keys ih =>
    rw [List.forall_mem_cons] at hkeys
    cases hR.step hab with
    | object hfind =>
      have hvalue := hfind key hkeys.1
      rw [AccessPath.follow?, AccessPath.follow?]
      generalize Entries.find? _ key = value? at hvalue ⊢
      generalize Entries.find? _ key = value'? at hvalue ⊢
      cases hvalue with
      | none => exact .none
      | some hvalue => exact ih hkeys.2 hvalue
    | null | bool | number | string | array => exact .none

variable {path : String} (hpath : ∀ key ∈ AccessPath.keys path, key ∈ names)

include hpath

/-- **A path leads to related values.** -/
theorem resolve {a b : Json} (hab : R a b) :
    R (AccessPath.resolve path a) (AccessPath.resolve path b) := by
  have hrelated : Option.Rel R (AccessPath.resolve? path a) (AccessPath.resolve? path b) := by
    rw [AccessPath.resolve?, AccessPath.resolve?]
    by_cases hcurrent : AccessPath.isCurrent path = true
    · rw [if_pos hcurrent, if_pos hcurrent]
      exact .some hab
    · rw [if_neg hcurrent, if_neg hcurrent]
      exact hR.follow? hpath hab
  rw [AccessPath.resolve, AccessPath.resolve]
  generalize AccessPath.resolve? path a = value? at hrelated ⊢
  generalize AccessPath.resolve? path b = value'? at hrelated ⊢
  cases hrelated with
  | none => exact hR.null
  | some hvalue => exact hvalue

/-- **A path leads to related scopes**, and to as many. -/
theorem scopes {a b : Json} (hab : R a b) :
    List.Forall₂ R (AccessPath.scopes path a) (AccessPath.scopes path b) := by
  have hvalue := hR.resolve hpath hab
  rw [AccessPath.scopes, AccessPath.scopes]
  generalize AccessPath.resolve path a = value at hvalue ⊢
  generalize AccessPath.resolve path b = value' at hvalue ⊢
  cases hR.step hvalue with
  | array hitems => exact hitems
  | null | bool | number | string | object => exact .cons hvalue .nil

end Lockstep

/-! ## Models that become equal -/

section Mapped

variable {α β : Type} {f : α → β} {P : α → Prop}

theorem forall₂_of_map_eq {items items' : List α} (hitems : ∀ item ∈ items, P item)
    (h : items.map f = items'.map f) :
    List.Forall₂ (fun a b => P a ∧ f a = f b) items items' := by
  rw [List.forall₂_and_left, ← List.forall₂_map_right_iff, ← List.forall₂_map_left_iff,
    List.forall₂_eq_eq_eq]
  exact ⟨hitems, h⟩

theorem rel_of_map_eq {a b : Option α} (ha : ∀ value ∈ a, P value) (h : a.map f = b.map f) :
    Option.Rel (fun a b => P a ∧ f a = f b) a b := by
  cases a with
  | none =>
    rw [Option.map_none, eq_comm, Option.map_eq_none_iff] at h
    rw [h]
    exact .none
  | some value =>
    obtain ⟨value', rfl, hsame⟩ := Option.map_eq_some_iff.1 h.symm
    exact .some ⟨ha value rfl, hsame.symm⟩

end Mapped

/-- **Values that are equal once their keys are replaced** are in lockstep if that keeps the
look-ups of the names.  It may need something of the values that passes to their parts. -/
theorem lockstep_rekey {names : List String} {f : String → Option String} {P : Json → Prop}
    (hnull : P .null) (hitem : ∀ items, P (.array items) → ∀ item ∈ items, P item)
    (hvalue : ∀ entries, P (.object entries) → ∀ value ∈ entries.map Prod.snd, P value)
    (hfind : ∀ entries entries', P (.object entries) →
      rekeyEntries f entries = rekeyEntries f entries' → ∀ name ∈ names,
        (Entries.find? entries name).map (rekey f) = (Entries.find? entries' name).map (rekey f)) :
    Lockstep names fun a b => P a ∧ rekey f a = rekey f b where
  null := ⟨hnull, rfl⟩
  step {a b} hab := by
    obtain ⟨ha, heq⟩ := hab
    cases a <;> cases b <;> simp only [rekey, reduceCtorEq, bool.injEq, number.injEq, string.injEq,
      array.injEq, object.injEq] at heq
    case null.null => exact .null
    case bool.bool => exact heq ▸ .bool _
    case number.number => exact heq ▸ .number _
    case string.string => exact heq ▸ .string _
    case array.array items items' =>
      rw [rekeyItems_eq_map, rekeyItems_eq_map] at heq
      exact .array (forall₂_of_map_eq (hitem items ha) heq)
    case object.object entries entries' =>
      refine .object fun name hname => rel_of_map_eq (fun value hfound => ?_) ?_
      · exact hvalue entries ha value (Entries.mem_of_find? hfound)
      · exact hfind entries entries' ha heq name hname

/-- **Models that hold the same under some names** are in lockstep as far as these names go. -/
theorem lockstep_restrict (names : List String) :
    Lockstep names fun a b => True ∧ a.restrict names = b.restrict names := by
  refine lockstep_rekey trivial (fun _ _ _ _ => trivial) (fun _ _ _ _ => trivial) ?_
  intro entries entries' _ hentries name hname
  have hleft := find?_restrict hname entries
  have hright := find?_restrict hname entries'
  rw [hentries] at hleft
  exact hleft.symm.trans hright

/-- **Models that differ in the case of keys** are in lockstep for all names if no object has two
keys that are equal up to case.  It is enough to say so of one of the two. -/
theorem lockstep_foldKeys (names : List String) :
    Lockstep names fun a b => a.DistinctKeys ∧ a.foldKeys = b.foldKeys := by
  refine lockstep_rekey .null (fun items h => ?_) (fun entries h => ?_) ?_
  · cases h with
    | array hitems => exact hitems
  · cases h with
    | object _ hvalues => exact hvalues
  · intro entries entries' h hentries name _
    cases h with
    | object hkeys _ =>
      have hkeys' : (entries'.map fun entry => foldCase entry.1).Nodup := by
        rwa [← map_foldCase_foldKeys, ← hentries, map_foldCase_foldKeys]
      have hleft := find?_foldKeys entries name
      have hright := find?_foldKeys entries' name
      rw [hentries] at hleft
      rw [Entries.find?_eq_getIgnoringCase? hkeys, Entries.find?_eq_getIgnoringCase? hkeys']
      exact hleft.symm.trans hright

end Json

end Bindery
