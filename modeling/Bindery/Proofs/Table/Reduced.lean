import Bindery.Proofs.Doc.Reduced
import Bindery.Table.Layout

/-!
# Layout with reduced styles

A slot is reduced like a node: its own styles are, and those of the element that it holds.  Layout
asks of an element whether it is empty and whether it is equal to another one, and neither tells
whether styles are reduced.  So every stage of a layout commutes with reducing the slots, and with
it the layout of columns whose slots are reduced (`layout_map_reduced`).
-/

namespace Bindery

namespace Table

namespace Slot

/-- The slot with one style of each kind, in it and in what it holds. -/
def reduced (slot : Slot) : Slot :=
  { slot with styles := Style.dedup slot.styles, element := slot.element.map Doc.reduced }

@[simp] theorem rows_reduced (slot : Slot) : slot.reduced.rows = slot.rows := rfl

@[simp] theorem columns_reduced (slot : Slot) : slot.reduced.columns = slot.columns := rfl

@[simp] theorem isBelow_reduced (slot : Slot) : slot.reduced.isBelow = slot.isBelow := rfl

@[simp] theorem isCovered_reduced (slot : Slot) : slot.reduced.isCovered = slot.isCovered := rfl

@[simp] theorem isBlank_reduced (slot : Slot) : slot.reduced.isBlank = slot.isBlank := by
  rw [isBlank, isBlank, reduced]
  cases slot.element with
  | none => rfl
  | some element => exact element.isEmpty_reduced

@[simp] theorem sameElement_reduced (a b : Slot) :
    a.reduced.sameElement b.reduced = a.sameElement b := by
  rw [sameElement, sameElement, reduced, reduced]
  cases a.element with
  | none => cases b.element <;> rfl
  | some element =>
    cases b.element with
    | none => rfl
    | some element' => exact element.agree_reduced element'

@[simp] theorem width_reduced (slot : Slot) : slot.reduced.width = slot.width := rfl

@[simp] theorem clear_reduced (slot : Slot) : slot.reduced.clear = slot.clear.reduced := by
  rw [clear, clear, isCovered_reduced]
  split <;> rfl

/-- A reduced slot becomes a reduced cell. -/
theorem toDoc_reduced (slot : Slot) : slot.reduced.toDoc = slot.toDoc.reduced := by
  rw [toDoc, toDoc, Doc.reduced_node]
  rfl

end Slot

/-! ## Merging along a row -/

theorem widenNearest_map_reduced (rows : Nat) (more : UInt32) (slots : List Slot) :
    widenNearest rows more (slots.map Slot.reduced) =
      (widenNearest rows more slots).map (List.map Slot.reduced) := by
  induction slots with
  | nil => rfl
  | cons slot slots ih =>
    simp only [List.map_cons, widenNearest, Slot.isBelow_reduced, Slot.rows_reduced,
      Slot.columns_reduced, ih]
    split
    · rfl
    · split
      · cases widenNearest rows more slots <;> rfl
      · rfl

theorem fold?_map_reduced (direction : CellMerge) (before : List Slot) (slot : Slot)
    (after : List Slot) :
    fold? direction (before.map Slot.reduced) slot.reduced (after.map Slot.reduced) =
      (fold? direction before slot after).map
        (Prod.map (List.map Slot.reduced) (List.map Slot.reduced)) := by
  simp only [fold?, Slot.isCovered_reduced, Slot.isBlank_reduced, Slot.rows_reduced,
    Slot.width_reduced, widenNearest_map_reduced]
  split
  · rfl
  · cases direction with
    | none => rfl
    | left => cases widenNearest slot.rows slot.width before <;> rfl
    | right => cases widenNearest slot.rows slot.width after <;> rfl

theorem mergeFrom_map_reduced (done : List Slot) (directions : List CellMerge) (slots : List Slot) :
    mergeFrom (done.map Slot.reduced) directions (slots.map Slot.reduced) =
      (mergeFrom done directions slots).map Slot.reduced := by
  fun_induction mergeFrom done directions slots with
  | case1 done direction directions slot slots done' slots' hfold ih =>
    rw [List.map_cons, mergeFrom, fold?_map_reduced, hfold]
    exact ih
  | case2 done direction directions slot slots hfold ih =>
    rw [List.map_cons, mergeFrom, fold?_map_reduced, hfold]
    exact ih
  | case3 directions done slots hdone =>
    cases directions with
    | nil => simp [mergeFrom]
    | cons direction directions =>
      cases slots with
      | nil => simp [mergeFrom]
      | cons slot slots => exact (hdone direction directions slot slots rfl rfl).elim

@[simp] theorem mergeRow_map_reduced (directions : List CellMerge) (row : List Slot) :
    mergeRow directions (row.map Slot.reduced) = (mergeRow directions row).map Slot.reduced :=
  mergeFrom_map_reduced [] directions row

/-! ## Joining down a column -/

@[simp] theorem joins_reduced (above slot : Slot) :
    joins above.reduced slot.reduced = joins above slot := by
  simp only [joins, Slot.isBelow_reduced, Slot.columns_reduced, Slot.sameElement_reduced]

theorem lengthenNearest_map_reduced (slots : List Slot) :
    lengthenNearest (slots.map Slot.reduced) = (lengthenNearest slots).map Slot.reduced := by
  induction slots with
  | nil => rfl
  | cons slot slots ih =>
    simp only [List.map_cons, lengthenNearest, Slot.isBelow_reduced, List.isEmpty_map, ih]
    split <;> rfl

theorem joinFrom_map_reduced (done slots : List Slot) :
    joinFrom (done.map Slot.reduced) (slots.map Slot.reduced) =
      (joinFrom done slots).map Slot.reduced := by
  induction slots generalizing done with
  | nil => simp [joinFrom]
  | cons slot slots ih =>
    have hjoins : (done.map Slot.reduced).head?.any (joins · slot.reduced) =
        done.head?.any (joins · slot) := by
      cases done with
      | nil => rfl
      | cons above done => exact joins_reduced above slot
    rw [List.map_cons, joinFrom, joinFrom, hjoins, lengthenNearest_map_reduced]
    split
    · exact ih (slot.underAbove :: lengthenNearest done)
    · exact ih (slot :: done)

theorem joinColumn_map_reduced (slots : List Slot) :
    joinColumn (slots.map Slot.reduced) = (joinColumn slots).map Slot.reduced :=
  joinFrom_map_reduced [] slots

theorem transpose_map {α β : Type} (f : α → β) (width : Nat) (rows : List (List α)) :
    transpose width (rows.map (List.map f)) = (transpose width rows).map (List.map f) := by
  induction rows with
  | nil => simp
  | cons row rows ih =>
    rw [List.map_cons, transpose_cons, transpose_cons, ih, List.map_zipWith, List.zipWith_map]
    rfl

theorem joinGrid_map_reduced (flags : List Bool) (grid : Grid) :
    joinGrid flags (grid.map (List.map Slot.reduced)) =
      (joinGrid flags grid).map (List.map Slot.reduced) := by
  have hcolumn (flag : Bool) (column : List Slot) :
      (if flag then joinColumn (column.map Slot.reduced) else column.map Slot.reduced) =
        (if flag then joinColumn column else column).map Slot.reduced := by
    cases flag with
    | true => exact joinColumn_map_reduced column
    | false => rfl
  rw [joinGrid, joinGrid, List.length_map, transpose_map Slot.reduced flags.length grid,
    List.zipWith_map_right, ← transpose_map, List.map_zipWith]
  simp only [hcolumn]

theorem joinGrids_map_reduced (flags : List Bool) (grids : List Grid) :
    joinGrids flags (grids.map (List.map (List.map Slot.reduced))) =
      (joinGrids flags grids).map (List.map Slot.reduced) := by
  have hany : (grids.map (List.map (List.map Slot.reduced))).any (1 < ·.length) =
      grids.any (1 < ·.length) := by
    simp [List.any_map, Function.comp_def]
  rw [joinGrids, joinGrids, hany]
  split
  · rw [List.flatMap_map, List.map_flatMap]
    exact List.flatMap_congr fun grid _ => joinGrid_map_reduced flags grid
  · rw [← List.map_flatten, joinGrid_map_reduced]

/-! ## Whole layouts -/

/-- The column with its slots reduced. -/
def Column.reduced (column : Column) : Column :=
  { column with slot := fun value => (column.slot value).reduced }

section Layout

variable (columns : List Column)

theorem Column.fanned_reduced (column : Column) (scope : Json) (rowCount row : Nat) :
    column.reduced.fanned scope rowCount row = (column.fanned scope rowCount row).reduced := by
  have hdata : column.reduced.data scope = column.data scope := rfl
  rw [Column.fanned, Column.fanned, hdata]
  split
  · next items _ => cases items[row]? <;> rfl
  · split <;> rfl

theorem boundGrid_map_reduced (scope : Json) :
    boundGrid (columns.map Column.reduced) scope =
      (boundGrid columns scope).map (List.map Slot.reduced) := by
  have hfanOut : fanOut (columns.map Column.reduced) scope = fanOut columns scope := by
    cases scope with
    | object entries =>
      rw [fanOut, List.map_map]
      rfl
    | _ => rfl
  rw [boundGrid, boundGrid, hfanOut]
  split
  · rw [List.map_map, List.map_singleton, List.map_map]
    rfl
  · rw [List.map_map]
    refine List.map_congr_left fun row _ => ?_
    simp only [List.map_map, Function.comp_apply]
    exact List.map_congr_left fun column _ => column.fanned_reduced scope _ row

theorem scopeGrid_map_reduced (scope : Json) :
    scopeGrid (columns.map Column.reduced) scope =
      (scopeGrid columns scope).map (List.map Slot.reduced) := by
  have hmerge : (columns.map Column.reduced).map Column.merge = columns.map Column.merge := by
    rw [List.map_map]
    rfl
  rw [scopeGrid, scopeGrid, hmerge, boundGrid_map_reduced, List.map_map, List.map_map]
  exact List.map_congr_left fun row _ => mergeRow_map_reduced _ row

/-- **Layout commutes with reducing.** -/
theorem layout_map_reduced (scopes : List Json) :
    layout (columns.map Column.reduced) scopes =
      (layout columns scopes).map (List.map Slot.reduced) := by
  have hjoin : (columns.map Column.reduced).map Column.joinRows = columns.map Column.joinRows := by
    rw [List.map_map]
    rfl
  have hgrids : scopes.map (scopeGrid (columns.map Column.reduced)) =
      (scopes.map (scopeGrid columns)).map (List.map (List.map Slot.reduced)) := by
    rw [List.map_map]
    exact List.map_congr_left fun scope _ => scopeGrid_map_reduced columns scope
  rw [layout, layout, hjoin, hgrids, joinGrids_map_reduced, List.map_map, List.map_map]
  refine List.map_congr_left fun row _ => ?_
  simp only [Function.comp_apply, List.map_map]
  exact List.map_congr_left fun slot _ => slot.clear_reduced

end Layout

end Table

end Bindery
