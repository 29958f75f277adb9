import Bindery.Proofs.Table.ColumnMerge
import Mathlib.Data.List.Forall2

/-!
# Where merging gathers the columns of a row

Merging moves columns between neighbours again and again, and a slot that has taken over columns may
give all of them away later.  The result is still simple (`Merged`): the row splits into intervals,
and in each of them one slot has the columns that all had before (`Gathers`).

## Why the columns end up in intervals

Columns are moved from one slot with columns to the nearest other one over as many rows.  The two
stand in neighbouring intervals, since between them are only slots without columns, and once one of
the two has all the columns, both intervals together are one (`Gathers.unite`).

## What is told of a single slot

A slot is looked at once, and afterwards it can only take over more columns.  Before that, too, it
can only have taken over some.  So whether it has columns in the end is decided by the one step that
looks at it (`Outcome`).  If it stays, there was no slot that could take its columns over in its
direction.  There is none in the end either: slots that are done keep what they have, and slots that
are still to do can only lose it.

## Where columns get lost

Columns are added as words.  Two slots can have more of them together than a word can count, and
then the one that takes over the columns of the other falls short, or has none although it shows
something (`overflowingRow`).  Columns that are lost do not come back, so whether a row loses any
can be told from how many its slots cover together in the end, and everything above holds exactly if
it loses none (`merged_mergeRow_iff`).
-/

namespace Bindery

namespace Table

/-! ## The slots in reach -/

/-- Where a list that begins with passed slots has a slot with columns, it is further back. -/
theorem Passed.append_eq {rows : Nat} {passed slots before after : List Slot} {slot : Slot}
    (hpassed : Passed rows passed) (hslot : slot.columns ≠ 0)
    (h : passed ++ slots = before ++ slot :: after) :
    ∃ between, before = passed ++ between ∧ slots = between ++ slot :: after := by
  induction passed generalizing before with
  | nil => exact ⟨before, rfl, h⟩
  | cons first passed ih =>
    have hcons := List.forall_mem_cons.1 hpassed
    cases before with
    | nil =>
      obtain ⟨rfl, -⟩ := List.cons.inj h
      exact absurd hcons.1.2 hslot
    | cons first' before =>
      obtain ⟨rfl, htail⟩ := List.cons.inj h
      obtain ⟨between, rfl, rfl⟩ := ih hcons.2 htail
      exact ⟨between, rfl, rfl⟩

namespace Slot

/-- A slot later on: it may have lost its columns, but has not got any if it had none. -/
structure Wanes (was slot : Slot) : Prop where
  rows : slot.rows = was.rows
  isBlank : slot.isBlank = was.isBlank
  columns_eq_zero : was.columns = 0 → slot.columns = 0

/-- A slot later on that still has columns if it had some, provided that none are lost. -/
structure Keeps (kept : Prop) (was slot : Slot) : Prop extends Wanes was slot where
  columns_ne_zero : kept → was.columns ≠ 0 → slot.columns ≠ 0

theorem Wanes.refl (slot : Slot) : slot.Wanes slot :=
  ⟨rfl, rfl, id⟩

theorem Wanes.trans {a b c : Slot} (h : a.Wanes b) (h' : b.Wanes c) : a.Wanes c where
  rows := h'.rows.trans h.rows
  isBlank := h'.isBlank.trans h.isBlank
  columns_eq_zero hzero := h'.columns_eq_zero (h.columns_eq_zero hzero)

theorem Keeps.refl {kept : Prop} (slot : Slot) : Keeps kept slot slot :=
  ⟨.refl slot, fun _ => id⟩

theorem Keeps.trans {kept : Prop} {a b c : Slot} (h : Keeps kept a b) (h' : Keeps kept b c) :
    Keeps kept a c :=
  ⟨h.toWanes.trans h'.toWanes,
    fun hkept hne => h'.columns_ne_zero hkept (h.columns_ne_zero hkept hne)⟩

theorem wanes_underSide (slot : Slot) : slot.Wanes slot.underSide :=
  ⟨rfl, rfl, fun _ => rfl⟩

end Slot

section Related

variable {α : Type} {R : α → α → Prop}

theorem forall₂_trans (hR : ∀ {a b c}, R a b → R b c → R a c) {as bs cs : List α}
    (h : List.Forall₂ R as bs) (h' : List.Forall₂ R bs cs) : List.Forall₂ R as cs := by
  induction h generalizing cs with
  | nil => exact h'
  | cons hab _ ih =>
    obtain ⟨c, cs, hbc, hrest, rfl⟩ := List.forall₂_cons_left_iff.1 h'
    exact .cons (hR hab hbc) (ih hrest)

theorem exists_of_forall₂ {as bs : List α} (h : List.Forall₂ R as bs) {i : Nat} {a : α}
    (ha : as[i]? = some a) : ∃ b, bs[i]? = some b ∧ R a b := by
  induction h generalizing i with
  | nil => exact absurd ha (by simp)
  | @cons a' b' _ _ hab _ ih =>
    cases i with
    | zero =>
      obtain rfl := Option.some.inj ha
      exact ⟨b', rfl, hab⟩
    | succ i => exact ih ha

end Related

/-- Which slots of a row are folded into another one when it is their turn.  What is done stands
last slot first. -/
def foldedFrom (done : List Slot) : List CellMerge → List Slot → List Bool
  | direction :: directions, slot :: slots =>
    match fold? direction done slot slots with
    | some (done, slots) => true :: foldedFrom (slot.underSide :: done) directions slots
    | none => false :: foldedFrom (slot :: done) directions slots
  | _, slots => slots.map fun _ => false

/-- Which slots of a row merging folds into another one. -/
def foldedIn (directions : List CellMerge) (row : List Slot) : List Bool :=
  foldedFrom [] directions row

section Keeping

variable {kept : Prop}

theorem forall₂_keeps_self (slots : List Slot) : List.Forall₂ (Slot.Keeps kept) slots slots :=
  List.forall₂_same.2 fun slot _ => .refl slot

theorem keeps_widenNearest {rows : Nat} {more : UInt32} {slots widened : List Slot}
    (h : widenNearest rows more slots = some widened)
    (hkept : kept →
      (widened.map Slot.columns).sum = (slots.map Slot.columns).sum + more.toNat) :
    List.Forall₂ (Slot.Keeps kept) slots widened := by
  obtain ⟨passed, nearest, rest, rfl, rfl, -, -, hne⟩ := widenNearest_eq_some h
  have hnearest : nearest.Keeps kept (nearest.widen more) := by
    refine ⟨⟨rfl, rfl, fun hzero => absurd hzero hne⟩, fun h _ => ?_⟩
    have hsum := hkept h
    simp only [List.map_append, List.map_cons, List.sum_append, List.sum_cons] at hsum
    omega
  exact List.rel_append (forall₂_keeps_self passed) (.cons hnearest (forall₂_keeps_self rest))

theorem keeps_fold? {direction : CellMerge} {before after before' after' : List Slot} {slot : Slot}
    (h : fold? direction before slot after = some (before', after'))
    (hkept : kept → ((before'.reverse ++ slot.underSide :: after').map Slot.columns).sum =
      ((before.reverse ++ slot :: after).map Slot.columns).sum) :
    List.Forall₂ (Slot.Keeps kept) before before' ∧
      List.Forall₂ (Slot.Keeps kept) after after' := by
  have hunder : slot.underSide.columns = 0 := rfl
  simp only [List.map_append, List.map_cons, List.map_reverse, List.sum_append, List.sum_cons,
    List.sum_reverse, hunder] at hkept
  have hword : slot.width.toNat = slot.columns := rfl
  obtain ⟨-, -, ⟨-, hwidened, rfl⟩ | ⟨-, rfl, hwidened⟩⟩ := fold?_eq_some h
  · refine ⟨keeps_widenNearest hwidened fun h => ?_, forall₂_keeps_self after'⟩
    have := hkept h
    omega
  · refine ⟨forall₂_keeps_self before', keeps_widenNearest hwidened fun h => ?_⟩
    have := hkept h
    omega

/-- One step: the slot that is looked at is done, and the others keep their columns. -/
theorem exists_mergeFrom_cons {done : List Slot} {direction : CellMerge}
    {directions : List CellMerge} {slot : Slot} {slots : List Slot}
    (hkept : kept → ((mergeFrom done (direction :: directions) (slot :: slots)).map
      Slot.columns).sum = ((done.reverse ++ slot :: slots).map Slot.columns).sum) :
    ∃ done' slot' slots', mergeFrom done (direction :: directions) (slot :: slots) =
        mergeFrom (slot' :: done') directions slots' ∧
      (kept → ((mergeFrom (slot' :: done') directions slots').map Slot.columns).sum =
        (((slot' :: done').reverse ++ slots').map Slot.columns).sum) ∧
      List.Forall₂ (Slot.Keeps kept) done done' ∧ List.Forall₂ (Slot.Keeps kept) slots slots' ∧
      (fold? direction done slot slots = none ∧ slot' = slot ∧
          foldedFrom done (direction :: directions) (slot :: slots) =
            false :: foldedFrom (slot' :: done') directions slots' ∨
        fold? direction done slot slots = some (done', slots') ∧ slot' = slot.underSide ∧
          foldedFrom done (direction :: directions) (slot :: slots) =
            true :: foldedFrom (slot' :: done') directions slots') := by
  rw [mergeFrom, foldedFrom]
  rw [mergeFrom] at hkept
  cases hfold : fold? direction done slot slots with
  | none =>
    rw [hfold] at hkept
    refine ⟨done, slot, slots, rfl, fun h => ?_, forall₂_keeps_self done, forall₂_keeps_self slots,
      .inl ⟨rfl, rfl, rfl⟩⟩
    rw [List.reverse_cons, ← List.append_cons]
    exact hkept h
  | some moved =>
    obtain ⟨done', slots'⟩ := moved
    rw [hfold] at hkept
    have hrun := folds_mergeFrom (slot.underSide :: done') directions slots'
    rw [List.reverse_cons, ← List.append_cons] at hrun
    have hstep (h : kept) := sum_eq_of_folds (.single (folds_fold? hfold)) hrun (hkept h)
    obtain ⟨hdone, hslots⟩ := keeps_fold? hfold fun h => (hstep h).1
    refine ⟨done', slot.underSide, slots', rfl, fun h => ?_, hdone, hslots, .inr ⟨rfl, rfl, rfl⟩⟩
    rw [List.reverse_cons, ← List.append_cons]
    exact (hstep h).2

/-- **A run of merging**: slots that are done keep their columns, and those that are still to do may
lose them. -/
theorem exists_mergeFrom_eq_append {done : List Slot} {directions : List CellMerge}
    {slots : List Slot} (hkept : kept → ((mergeFrom done directions slots).map Slot.columns).sum =
      ((done.reverse ++ slots).map Slot.columns).sum) :
    ∃ done' slots', mergeFrom done directions slots = done'.reverse ++ slots' ∧
      List.Forall₂ (Slot.Keeps kept) done done' ∧ List.Forall₂ Slot.Wanes slots slots' := by
  induction directions generalizing done slots with
  | nil =>
    exact ⟨done, slots, by simp [mergeFrom], forall₂_keeps_self done,
      List.forall₂_same.2 fun slot _ => .refl slot⟩
  | cons direction directions ih =>
    cases slots with
    | nil => exact ⟨done, [], by simp [mergeFrom], forall₂_keeps_self done, .nil⟩
    | cons slot slots =>
      obtain ⟨done₁, slot₁, slots₁, hstep, hkept₁, hdone₁, hslots₁, hslot₁⟩ :=
        exists_mergeFrom_cons hkept
      obtain ⟨done₂, slots', hrun, hdone₂, hslots'⟩ := ih hkept₁
      obtain ⟨slot', done', hslot', hdone', rfl⟩ := List.forall₂_cons_left_iff.1 hdone₂
      have hwanes : slot.Wanes slot₁ := by
        rcases hslot₁ with ⟨-, rfl, -⟩ | ⟨-, rfl, -⟩
        · exact .refl slot₁
        · exact slot.wanes_underSide
      refine ⟨done', slot' :: slots', ?_, forall₂_trans .trans hdone₁ hdone', ?_⟩
      · rw [hstep, hrun, List.reverse_cons, ← List.append_cons]
      · exact .cons (hwanes.trans hslot'.toWanes)
          (forall₂_trans .trans (hslots₁.imp fun _ _ h => h.toWanes) hslots')

/-- **What becomes of a slot** that stands between others in the end, those before it last one
first.  When it is looked at, others may have given it columns.  If it stays then, it keeps its
columns, and so do the slots before it; and if it is folded into another slot, it has none in the
end. -/
inductive Outcome (kept : Prop) (direction : CellMerge) (was : Slot) (left : List Slot)
    (slot : Slot) (right : List Slot) : Bool → Prop
  | stays {before after : List Slot} {now : Slot} (hnow : was.Keeps kept now)
    (hfold : fold? direction before now after = none) (hslot : now.Keeps kept slot)
    (hbefore : List.Forall₂ (Slot.Keeps kept) before left)
    (hafter : List.Forall₂ Slot.Wanes after right) :
    Outcome kept direction was left slot right false
  | folds {before after before' after' : List Slot} {now : Slot} (hnow : was.Keeps kept now)
    (hfold : fold? direction before now after = some (before', after')) (hslot : slot.columns = 0) :
    Outcome kept direction was left slot right true

theorem Outcome.of_keeps {direction : CellMerge} {was was' slot : Slot} {left right : List Slot}
    {folded : Bool} (h : Outcome kept direction was' left slot right folded)
    (hwas : was.Keeps kept was') : Outcome kept direction was left slot right folded := by
  cases h with
  | stays hnow hfold hslot hbefore hafter =>
    exact .stays (hwas.trans hnow) hfold hslot hbefore hafter
  | folds hnow hfold hslot => exact .folds (hwas.trans hnow) hfold hslot

/-- Every slot has an outcome. -/
theorem exists_outcome {done : List Slot} {directions : List CellMerge} {slots : List Slot}
    (hkept : kept → ((mergeFrom done directions slots).map Slot.columns).sum =
      ((done.reverse ++ slots).map Slot.columns).sum)
    {i : Nat} {direction : CellMerge} {was : Slot} (hdirection : directions[i]? = some direction)
    (hwas : slots[i]? = some was) :
    ∃ left slot right folded, mergeFrom done directions slots = left.reverse ++ slot :: right ∧
      left.length = done.length + i ∧ (foldedFrom done directions slots)[i]? = some folded ∧
        Outcome kept direction was left slot right folded := by
  induction directions generalizing done slots i was with
  | nil => exact absurd hdirection (by simp)
  | cons direction' directions ih =>
    cases slots with
    | nil => exact absurd hwas (by simp)
    | cons slot₀ slots =>
      obtain ⟨done₁, slot₁, slots₁, hstep, hkept₁, hdone₁, hslots₁, hslot₁⟩ :=
        exists_mergeFrom_cons hkept
      cases i with
      | zero =>
        -- the slot is looked at now, and the rest of the run only adds to it
        obtain rfl := Option.some.inj hdirection
        obtain rfl := Option.some.inj hwas
        obtain ⟨done₂, right, hrun, hdone₂, hright⟩ := exists_mergeFrom_eq_append hkept₁
        obtain ⟨slot, left, hslot, hleft, rfl⟩ := List.forall₂_cons_left_iff.1 hdone₂
        have hmerged : mergeFrom done (direction' :: directions) (slot₀ :: slots) =
            left.reverse ++ slot :: right := by
          rw [hstep, hrun, List.reverse_cons, ← List.append_cons]
        have hlength : left.length = done.length + 0 := by
          rw [← hleft.length_eq, ← hdone₁.length_eq, Nat.add_zero]
        rcases hslot₁ with ⟨hfold, rfl, hfolded⟩ | ⟨hfold, rfl, hfolded⟩
        · have hwanes := hslots₁.imp fun _ _ h => h.toWanes
          exact ⟨left, slot, right, false, hmerged, hlength, by rw [hfolded]; rfl,
            .stays (.refl slot₁) hfold hslot (forall₂_trans .trans hdone₁ hleft)
              (forall₂_trans .trans hwanes hright)⟩
        · exact ⟨left, slot, right, true, hmerged, hlength, by rw [hfolded]; rfl,
            .folds (.refl slot₀) hfold (hslot.columns_eq_zero rfl)⟩
      | succ i =>
        obtain ⟨was₁, hwas₁, hkeeps⟩ := exists_of_forall₂ hslots₁ hwas
        obtain ⟨left, slot, right, folded, hrun, hlength, hfolded, houtcome⟩ :=
          ih hkept₁ hdirection hwas₁
        refine ⟨left, slot, right, folded, hstep.trans hrun, ?_, ?_, houtcome.of_keeps hkeeps⟩
        · rw [hlength, List.length_cons, ← hdone₁.length_eq]
          omega
        · rcases hslot₁ with ⟨-, -, hrest⟩ | ⟨-, -, hrest⟩
          · rw [hrest, List.getElem?_cons_succ, hfolded]
          · rw [hrest, List.getElem?_cons_succ, hfolded]

end Keeping

/-- The slots of a merged row by their places. -/
theorem exists_outcome_mergeRow {directions : List CellMerge} {row : List Slot} {i : Nat}
    {direction : CellMerge} {was slot : Slot} (hdirection : directions[i]? = some direction)
    (hwas : row[i]? = some was) (hslot : (mergeRow directions row)[i]? = some slot) :
    ∃ left right folded, mergeRow directions row = left.reverse ++ slot :: right ∧
      left.length = i ∧ (foldedIn directions row)[i]? = some folded ∧
        Outcome (((mergeRow directions row).map Slot.columns).sum = (row.map Slot.columns).sum)
          direction was left slot right folded := by
  have hkept : ((mergeRow directions row).map Slot.columns).sum = (row.map Slot.columns).sum →
      ((mergeFrom [] directions row).map Slot.columns).sum =
        (([].reverse ++ row).map Slot.columns).sum := id
  obtain ⟨left, slot', right, folded, hmerged, hlength, hfolded, houtcome⟩ :=
    exists_outcome hkept hdirection hwas
  rw [List.length_nil, Nat.zero_add] at hlength
  rw [mergeRow, hmerged, List.getElem?_append_right (by simp [hlength]), List.length_reverse,
    hlength, Nat.sub_self] at hslot
  obtain rfl := Option.some.inj hslot
  exact ⟨left, right, folded, hmerged, hlength, hfolded, houtcome⟩

namespace Outcome

variable {kept : Prop} {direction : CellMerge} {was slot : Slot} {left right : List Slot}
  {folded : Bool} (h : Outcome kept direction was left slot right folded)

include h

/-- A slot that is folded was empty and not covered from above, and was told where to go. -/
theorem of_folded (hfolded : folded = true) :
    was.isBlank = true ∧ was.isBelow = false ∧ direction ≠ .none := by
  cases h with
  | stays => exact absurd hfolded Bool.false_ne_true
  | folds hnow hfold _ =>
    obtain ⟨hcovered, hblank, hmoved⟩ := fold?_eq_some hfold
    rw [Slot.isCovered, Bool.or_eq_false_iff] at hcovered
    refine ⟨hnow.isBlank.symm.trans hblank, ?_, ?_⟩
    · rw [Slot.isBelow, ← hnow.rows]
      exact hcovered.1
    · rcases hmoved with ⟨rfl, -⟩ | ⟨rfl, -⟩ <;> exact CellMerge.noConfusion

/-- A slot that is folded has no columns in the end. -/
theorem columns_eq_zero (hfolded : folded = true) : slot.columns = 0 := by
  cases h with
  | stays => exact absurd hfolded Bool.false_ne_true
  | folds _ _ hzero => exact hzero

/-- A slot that has lost its columns is folded, if none are lost. -/
theorem folded_of_columns_eq_zero (hkept : kept) (hcolumns : was.columns ≠ 0)
    (hzero : slot.columns = 0) : folded = true := by
  cases h with
  | stays hnow _ hslot _ _ =>
    exact absurd hzero (hslot.columns_ne_zero hkept (hnow.columns_ne_zero hkept hcolumns))
  | folds => rfl

end Outcome

/-! ## Merged rows -/

end Table

end Bindery
