import Bindery.Attribute.Choice
import Bindery.Table.Slot

/-!
# Merging empty slots along a row

A column may say that its slots, where they show nothing, are folded into a neighbour on the left or
on the right.  The row is gone through from left to right.  An empty slot looks in its direction for
the nearest slot that is not covered itself, and that one takes over its columns.  A slot that
belongs to other rows stands in the way.

The row is held as a zipper: what is done is kept nearest first, so that "the nearest on the left"
is the first that fits, as it is on the right.

* `Table.fold?`: one slot and its neighbours.
* `Table.mergeRow`: the whole row.
-/

namespace Bindery

namespace Table

/-- The slots of a row, nearest first, after the nearest one that is not covered from its side has
taken over more columns.  There is none if a slot over other rows comes first. -/
def widenNearest (rows : Nat) (more : UInt32) : List Slot → Option (List Slot)
  | [] => none
  | slot :: slots =>
    if slot.isBelow || slot.rows != rows then none
    else if slot.columns = 0 then (widenNearest rows more slots).map (slot :: ·)
    else some (slot.widen more :: slots)

/-- The slots before a slot, last one first, and those after it, once a neighbour in the given
direction has taken over its columns.  There is none if the slot stays as it is. -/
def fold? (direction : CellMerge) (before : List Slot) (slot : Slot) (after : List Slot) :
    Option (List Slot × List Slot) :=
  if slot.isCovered || !slot.isBlank then none
  else match direction with
    | .none => none
    | .left => (widenNearest slot.rows slot.width before).map (·, after)
    | .right => (widenNearest slot.rows slot.width after).map (before, ·)

/-- The row after the slots that are still to do have been gone through.  What is done stands last
slot first. -/
def mergeFrom (done : List Slot) : List CellMerge → List Slot → List Slot
  | direction :: directions, slot :: slots =>
    match fold? direction done slot slots with
    | some (done, slots) => mergeFrom (slot.underSide :: done) directions slots
    | none => mergeFrom (slot :: done) directions slots
  | _, slots => done.reverse ++ slots

/-- A row with its empty slots merged, given the direction of each column. -/
def mergeRow (directions : List CellMerge) (row : List Slot) : List Slot :=
  mergeFrom [] directions row

theorem length_widenNearest {rows : Nat} {more : UInt32} {slots widened : List Slot}
    (h : widenNearest rows more slots = some widened) : widened.length = slots.length := by
  induction slots generalizing widened with
  | nil => simp [widenNearest] at h
  | cons slot slots ih =>
    simp only [widenNearest] at h
    split at h
    · simp at h
    · split at h
      · obtain ⟨rest, hrest, rfl⟩ := Option.map_eq_some_iff.1 h
        simp [ih hrest]
      · simp only [Option.some.injEq] at h
        simp [← h]

/-- What folding does: an empty slot that is not covered gives its columns to the nearest slot on
one side, and the other side stays as it is. -/
theorem fold?_eq_some {direction : CellMerge} {before after before' after' : List Slot}
    {slot : Slot} (h : fold? direction before slot after = some (before', after')) :
    slot.isCovered = false ∧ slot.isBlank = true ∧
      (direction = .left ∧ widenNearest slot.rows slot.width before = some before' ∧
          after' = after ∨
        direction = .right ∧ before' = before ∧
          widenNearest slot.rows slot.width after = some after') := by
  unfold fold? at h
  split at h
  · simp at h
  · next hopen =>
    simp only [Bool.or_eq_true, Bool.not_eq_true', not_or, Bool.not_eq_true, Bool.not_eq_false]
      at hopen
    refine ⟨hopen.1, hopen.2, ?_⟩
    cases direction with
    | none => simp at h
    | left =>
      obtain ⟨widened, hwidened, hpair⟩ := Option.map_eq_some_iff.1 h
      obtain ⟨rfl, rfl⟩ := Prod.mk.inj hpair
      exact Or.inl ⟨rfl, hwidened, rfl⟩
    | right =>
      obtain ⟨widened, hwidened, hpair⟩ := Option.map_eq_some_iff.1 h
      obtain ⟨rfl, rfl⟩ := Prod.mk.inj hpair
      exact Or.inr ⟨rfl, rfl, hwidened⟩

theorem length_fold? {direction : CellMerge} {before after before' after' : List Slot} {slot : Slot}
    (h : fold? direction before slot after = some (before', after')) :
    before'.length = before.length ∧ after'.length = after.length := by
  obtain ⟨-, -, ⟨-, hwidened, rfl⟩ | ⟨-, rfl, hwidened⟩⟩ := fold?_eq_some h
  · exact ⟨length_widenNearest hwidened, rfl⟩
  · exact ⟨rfl, length_widenNearest hwidened⟩

theorem length_mergeFrom (done : List Slot) (directions : List CellMerge) (slots : List Slot) :
    (mergeFrom done directions slots).length = done.length + slots.length := by
  fun_induction mergeFrom done directions slots with
  | case1 done direction directions slot slots done' slots' hfold ih =>
    have := length_fold? hfold
    simp only [List.length_cons] at ih ⊢
    omega
  | case2 done direction directions slot slots _ ih =>
    simp only [List.length_cons] at ih ⊢
    omega
  | case3 => simp

/-- Merging keeps every place of the row. -/
@[simp] theorem length_mergeRow (directions : List CellMerge) (row : List Slot) :
    (mergeRow directions row).length = row.length := by
  simp [mergeRow, length_mergeFrom]

end Table

end Bindery
