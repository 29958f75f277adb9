import Bindery.Table.Slot

/-!
# Joining equal slots down a column

A column may say that equal slots below each other are joined into one.  A slot joins the one above
it if both hold equal elements and cover as many columns, and if it is not covered from above
already.  The first slot of a run then covers all its rows.

The column is gone through from the top, and what is done is kept nearest first.  A slot that joins
is covered from above, and the row that it gives up goes to the slot that covers the one above it:
the nearest one that is not covered from above itself.

* `Table.joinColumn`: a column.
* `Table.joinGrid`: the columns of a grid that ask for it.
-/

namespace Bindery

namespace Table

/-- Whether a slot joins the one above it. -/
def joins (above slot : Slot) : Bool :=
  !slot.isBelow && slot.columns == above.columns && slot.sameElement above

/-- The slots of a column, last one first, after the last one that is not covered from above has
come to cover one more row.  If all of them are covered, it is the first one of the column. -/
def lengthenNearest : List Slot → List Slot
  | [] => []
  | slot :: slots =>
    if slot.isBelow && !slots.isEmpty then slot :: lengthenNearest slots
    else slot.lengthen :: slots

/-- The column after the slots that are still to do have been gone through.  What is done stands
last slot first. -/
def joinFrom (done : List Slot) : List Slot → List Slot
  | [] => done.reverse
  | slot :: slots =>
    if done.head?.any (joins · slot) then joinFrom (slot.underAbove :: lengthenNearest done) slots
    else joinFrom (slot :: done) slots

/-- A column after joining. -/
def joinColumn (slots : List Slot) : List Slot :=
  joinFrom [] slots

@[simp] theorem length_lengthenNearest (slots : List Slot) :
    (lengthenNearest slots).length = slots.length := by
  fun_induction lengthenNearest slots with
  | case1 => rfl
  | case2 slot slots _ ih => rw [List.length_cons, ih, List.length_cons]
  | case3 => rfl

theorem length_joinFrom (done slots : List Slot) :
    (joinFrom done slots).length = done.length + slots.length := by
  fun_induction joinFrom done slots with
  | case1 => simp
  | case2 done slot slots _ ih =>
    rw [ih, List.length_cons, length_lengthenNearest, List.length_cons]
    omega
  | case3 done slot slots _ ih =>
    rw [ih, List.length_cons, List.length_cons]
    omega

/-- Joining keeps every place of the column. -/
@[simp] theorem length_joinColumn (slots : List Slot) :
    (joinColumn slots).length = slots.length := by
  rw [joinColumn, length_joinFrom, List.length_nil, Nat.zero_add]

/-- The columns of a list of rows of the given width, or the rows of a list of columns. -/
def transpose {α : Type} (width : Nat) (rows : List (List α)) : List (List α) :=
  rows.foldr (List.zipWith List.cons) (List.replicate width [])

@[simp] theorem transpose_nil {α : Type} (width : Nat) :
    transpose width ([] : List (List α)) = List.replicate width [] := rfl

@[simp] theorem transpose_cons {α : Type} (width : Nat) (row : List α) (rows : List (List α)) :
    transpose width (row :: rows) = List.zipWith List.cons row (transpose width rows) := rfl

theorem length_transpose {α : Type} {width : Nat} {rows : List (List α)}
    (h : ∀ row ∈ rows, row.length = width) : (transpose width rows).length = width := by
  induction rows with
  | nil => simp
  | cons row rows ih =>
    simp only [List.forall_mem_cons] at h
    simp [ih h.2, h.1]

/-- A grid after joining in the columns that are flagged.  Each row has a slot for each flag. -/
def joinGrid (flags : List Bool) (grid : Grid) : Grid :=
  transpose grid.length
    (List.zipWith (fun flag column => if flag then joinColumn column else column) flags
      (transpose flags.length grid))

end Table

end Bindery
