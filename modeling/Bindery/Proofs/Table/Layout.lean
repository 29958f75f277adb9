import Bindery.Proofs.Table.Content
import Bindery.Proofs.Table.Sound
import Bindery.Table.Layout

/-!
# Rows that are laid out

The grid of each scope is upright if the columns leave the rows of their slots open, with the
columns that spread being those of a single value in a scope of several rows; so the columns of what
is laid out are stacked (`stacks_layout`).  If the columns leave all spans of their slots open, the
grid of each scope has a shape, and what is laid out for any data is sound (`sound_layout`), be it
joined within the scopes or across them.
-/

namespace Bindery

namespace Table

@[simp] theorem Slot.rows_clear (slot : Slot) : slot.clear.rows = slot.rows := by
  unfold Slot.clear
  split <;> rfl

@[simp] theorem Slot.columns_clear (slot : Slot) : slot.clear.columns = slot.columns := by
  unfold Slot.clear
  split <;> rfl

/-! ## Joining the grids of several scopes -/

theorem getD_mem {grid : Grid} {i : Nat} (hi : i < grid.length) : grid.getD i [] ∈ grid := by
  rw [List.getD_eq_getElem _ _ hi]
  exact List.getElem_mem hi

/-- Rows of slots over one row each, from wherever, are a grid in which no column spreads. -/
theorem upright_of_rows {width : Nat} {grid : Grid}
    (h : ∀ row ∈ grid, row.length = width ∧ ∀ c < width, rowsIn row c = 1) :
    Upright width (fun _ => false) grid where
  length row hrow := (h row hrow).1
  rows _ hi c hc := by
    rw [(h _ (getD_mem hi)).2 c hc]
    rfl

theorem shape_of_rows {width : Nat} {grid : Grid}
    (h : ∀ row ∈ grid, row.length = width ∧ (∀ c < width, rowsIn row c = 1) ∧
      Separated width (fun _ => false) (columnsIn row)) : Shape width (fun _ => false) grid where
  toUpright := upright_of_rows fun row hrow => ⟨(h row hrow).1, (h row hrow).2.1⟩
  separated _ hi := (h _ (getD_mem hi)).2.2

/-- The one row of a grid that has no more. -/
theorem getD_zero_of_mem {grid : Grid} (hlength : grid.length ≤ 1) {row : List Slot}
    (hrow : row ∈ grid) : grid.length = 1 ∧ grid.getD 0 [] = row := by
  have hpos : 0 < grid.length := List.length_pos_of_mem hrow
  have hone : grid.length = 1 := by omega
  obtain ⟨only, honly⟩ := List.length_eq_one_iff.1 hone
  rw [honly, List.mem_singleton] at hrow
  refine ⟨hone, ?_⟩
  rw [honly, hrow]
  rfl

/-- The row of a scope that gives only one. -/
theorem Upright.single {width : Nat} {spread : Nat → Bool} {grid : Grid}
    (h : Upright width spread grid) (hlength : grid.length ≤ 1) :
    ∀ row ∈ grid, row.length = width ∧ ∀ c < width, rowsIn row c = 1 := by
  intro row hrow
  obtain ⟨hone, hfirst⟩ := getD_zero_of_mem hlength hrow
  refine ⟨h.length row hrow, fun c hc => ?_⟩
  rw [← hfirst, h.rows 0 (by omega) c hc, if_pos rfl, hone, ite_self]

theorem Shape.single {width : Nat} {spread : Nat → Bool} {grid : Grid}
    (h : Shape width spread grid) (hlength : grid.length ≤ 1) :
    ∀ row ∈ grid, row.length = width ∧ (∀ c < width, rowsIn row c = 1) ∧
      Separated width (fun _ => false) (columnsIn row) := by
  intro row hrow
  obtain ⟨hwidth, hrows⟩ := h.toUpright.single hlength row hrow
  obtain ⟨hone, hfirst⟩ := getD_zero_of_mem hlength hrow
  refine ⟨hwidth, hrows, ?_⟩
  rw [← hfirst]
  exact (h.separated 0 (by omega)).of_sort fun _ _ hne => absurd rfl hne

/-- The rows of grids that have no more than one each. -/
theorem of_mem_flatten {grids : List Grid} {P : List Slot → Prop}
    (hsingle : ¬ grids.any (1 < ·.length) = true)
    (h : ∀ grid ∈ grids, grid.length ≤ 1 → ∀ row ∈ grid, P row) : ∀ row ∈ grids.flatten, P row := by
  intro row hrow
  obtain ⟨grid, hgrid, hrow⟩ := List.mem_flatten.1 hrow
  refine h grid hgrid ?_ row hrow
  by_contra hlength
  exact hsingle (List.any_eq_true.2 ⟨grid, hgrid, decide_eq_true (by omega)⟩)

/-- Grids of one row each are a grid in which no column spreads. -/
theorem upright_flatten {width : Nat} {grids : List Grid}
    (hsingle : ¬ grids.any (1 < ·.length) = true)
    (h : ∀ grid ∈ grids, ∃ spread, Upright width spread grid) :
    Upright width (fun _ => false) grids.flatten := by
  refine upright_of_rows (of_mem_flatten hsingle fun grid hgrid hlength => ?_)
  obtain ⟨spread, hupright⟩ := h grid hgrid
  exact hupright.single hlength

/-- A word that can count the rows of all grids can count those of each one. -/
theorem length_lt_of_mem {grids : List Grid} {n : Nat} (h : grids.flatten.length < n) {grid : Grid}
    (hgrid : grid ∈ grids) : grid.length < n :=
  Nat.lt_of_le_of_lt (List.infix_of_mem_flatten hgrid).length_le h

/-- **The columns of all scopes are stacked together** after joining. -/
theorem stacks_joinGrids {flags : List Bool} {grids : List Grid}
    (h : ∀ grid ∈ grids, ∃ spread, Upright flags.length spread grid)
    (hsize : grids.flatten.length < UInt32.size) {c : Nat} (hc : c < flags.length) :
    Stacks ((column (joinGrids flags grids) c).map Slot.rows) := by
  unfold joinGrids
  split
  · rw [column_flatMap, List.map_flatMap]
    refine Stacks.flatMap fun grid hgrid => ?_
    obtain ⟨spread, hupright⟩ := h grid hgrid
    exact hupright.stacks_joinGrid (length_lt_of_mem hsize hgrid) hc
  · next hsingle =>
    exact (upright_flatten hsingle h).stacks_joinGrid hsize hc

/-- **The grids of all scopes are sound together** after joining, be it within the scopes or across
them. -/
theorem sound_joinGrids {flags : List Bool} {grids : List Grid}
    (h : ∀ grid ∈ grids, ∃ spread, Shape flags.length spread grid)
    (hsize : grids.flatten.length < UInt32.size) : Sound flags.length (joinGrids flags grids) := by
  unfold joinGrids
  split
  · refine Sound.flatMap fun grid hgrid => ?_
    obtain ⟨spread, hshape⟩ := h grid hgrid
    exact hshape.sound_joinGrid (length_lt_of_mem hsize hgrid)
  · next hsingle =>
    refine (shape_of_rows (of_mem_flatten hsingle ?_)).sound_joinGrid hsize
    intro grid hgrid hlength
    obtain ⟨spread, hshape⟩ := h grid hgrid
    exact hshape.single hlength

/-! ## The grid of a scope -/

/-- Whether a column leaves the rows of its slots open. -/
def Column.LeavesRowsOpen (column : Column) : Prop :=
  ∀ value, (column.slot value).rowSpan = none

/-- Whether a column leaves the spans of its slots open. -/
structure Column.LeavesSpansOpen (column : Column) : Prop where
  colSpan : column.colSpan = none
  slot : ∀ value, (column.slot value).rowSpan = none ∧ (column.slot value).colSpan = none

/-- Whether the slots of a column cover the columns that the column says, whatever their value. -/
def Column.IsEven (column : Column) : Prop :=
  ∀ value, (column.slot value).width = column.colSpan.getD 1

namespace Column

variable {column : Column}

theorem LeavesSpansOpen.leavesRowsOpen (h : column.LeavesSpansOpen) : column.LeavesRowsOpen :=
  fun value => (h.slot value).1

/-- A slot of its own covers one row. -/
theorem rows_slot (h : column.LeavesRowsOpen) (value : Json) : (column.slot value).rows = 1 := by
  rw [Slot.rows, Slot.height, h value]
  rfl

/-- A slot that only fills a place covers the columns that the column says as well. -/
theorem IsEven.width_fanned (h : column.IsEven) (scope : Json) (rowCount row : Nat) :
    (column.fanned scope rowCount row).width = column.colSpan.getD 1 := by
  unfold fanned
  split
  · split
    · exact h _
    · rfl
  · split
    · exact h _
    · rfl

section Columns

variable (h : column.LeavesSpansOpen)

include h

theorem LeavesSpansOpen.isEven : column.IsEven := by
  intro value
  rw [Slot.width, (h.slot value).2, h.colSpan]

theorem columns_slot (value : Json) : (column.slot value).columns = 1 := by
  rw [Slot.columns, h.isEven value, h.colSpan]
  rfl

/-- Every slot that a column puts into the rows of a scope has one column. -/
theorem columns_fanned (scope : Json) (rowCount row : Nat) :
    (column.fanned scope rowCount row).columns = 1 := by
  rw [Slot.columns, h.isEven.width_fanned, h.colSpan]
  rfl

end Columns

/-- A single value is put into the first row and covers all of them. -/
theorem rows_fanned (h : column.LeavesRowsOpen) (scope : Json) {rowCount : Nat}
    (hsize : rowCount < UInt32.size) (row : Nat) :
    (column.fanned scope rowCount row).rows =
      if (column.data scope).array?.isNone then (if row = 0 then rowCount else 0) else 1 := by
  unfold fanned
  split
  · next items hdata =>
    rw [hdata, if_neg (by simp [Json.array?])]
    split
    · exact rows_slot h _
    · rfl
  · next hdata =>
    have hnone : (column.data scope).array?.isNone = true := by
      cases hvalue : column.data scope with
      | array items => exact absurd hvalue (hdata items)
      | _ => rfl
    rw [if_pos hnone]
    split
    · exact UInt32.toNat_ofNat_of_lt' hsize
    · rfl

end Column

/-- Whether the slot of a column is to cover several rows of a scope. -/
def Column.spreads (column : Column) (scope : Json) (rowCount : Nat) : Bool :=
  rowCount != 1 && (column.data scope).array?.isNone

theorem Column.rows_fanned_of_lt {column : Column} (h : column.LeavesRowsOpen) (scope : Json)
    {rowCount row : Nat} (hsize : rowCount < UInt32.size) (hrow : row < rowCount) :
    (column.fanned scope rowCount row).rows =
      if column.spreads scope rowCount then (if row = 0 then rowCount else 0) else 1 := by
  rw [Column.rows_fanned h scope hsize, Column.spreads]
  by_cases hone : rowCount = 1
  · have hzero : row = 0 := by omega
    rw [hone, hzero, if_pos rfl, ite_self]
    rfl
  · have hspreads : (rowCount != 1) = true := bne_iff_ne.2 hone
    rw [hspreads, Bool.true_and]

/-- Which columns of a scope spread. -/
def spreadIn (columns : List Column) (scope : Json) (rowCount c : Nat) : Bool :=
  columns[c]?.elim false fun column => column.spreads scope rowCount

theorem rowCount_ne_one_of_spreadIn {columns : List Column} {scope : Json} {rowCount c : Nat}
    (h : spreadIn columns scope rowCount c = true) : rowCount ≠ 1 := by
  unfold spreadIn at h
  cases hcolumn : columns[c]? with
  | none =>
    rw [hcolumn] at h
    exact absurd h Bool.false_ne_true
  | some column =>
    rw [hcolumn] at h
    exact bne_iff_ne.1 (Bool.and_eq_true_iff.1 h).1

/-- A row with one slot for each column. -/
theorem rowsIn_map (columns : List Column) (f : Column → Slot) {c : Nat} (hc : c < columns.length) :
    rowsIn (columns.map f) c = (f columns[c]).rows := by
  rw [rowsIn, List.getElem?_map, List.getElem?_eq_getElem hc]
  rfl

theorem rowsIn_mergeRow (directions : List CellMerge) (row : List Slot) (c : Nat) :
    rowsIn (mergeRow directions row) c = rowsIn row c := by
  rw [rowsIn_eq_getD, rowsIn_eq_getD, map_rows_mergeRow]

/-- Slots of one column each lose none, as long as a word can count them. -/
theorem sum_columns_mergeRow_of_columns_eq_one (directions : List CellMerge) {row : List Slot}
    (hcolumns : ∀ slot ∈ row, slot.columns = 1) (hsize : row.length < UInt32.size) :
    ((mergeRow directions row).map Slot.columns).sum = (row.map Slot.columns).sum := by
  refine sum_columns_mergeRow directions ?_
  rw [List.map_congr_left hcolumns, List.map_const', List.sum_replicate_nat, Nat.mul_one]
  exact hsize

/-- **A row after merging** is separated where the rows that it covers change. -/
theorem separated_mergeRow (directions : List CellMerge) (spread : Nat → Bool) {row : List Slot}
    (hcolumns : ∀ slot ∈ row, slot.columns = 1) (hsize : row.length < UInt32.size)
    (hspread : ∀ c, c + 1 < row.length → spread c ≠ spread (c + 1) →
      rowsIn row c ≠ rowsIn row (c + 1)) :
    Separated row.length spread (columnsIn (mergeRow directions row)) := by
  have hfits : Fits 0 0 (mergeRow directions row) :=
    fits_mergeRow directions (sum_columns_mergeRow_of_columns_eq_one directions hcolumns hsize)
      (fits_of_columns_eq_one hcolumns 0)
  have hseparated := hfits.separated
  rw [length_mergeRow] at hseparated
  refine hseparated.of_sort fun c hc hne => ?_
  rw [rowsIn_mergeRow, rowsIn_mergeRow]
  exact hspread c hc hne

/-- A row of a scope that fans out, after merging. -/
def fannedRow (columns : List Column) (scope : Json) (rowCount row : Nat) : List Slot :=
  mergeRow (columns.map Column.merge) (columns.map fun column => column.fanned scope rowCount row)

/-- The rows of a scope are one row, or those that it fans out into. -/
theorem scopeGrid_cases (columns : List Column) (scope : Json) :
    scopeGrid columns scope =
        [mergeRow (columns.map Column.merge) (columns.map fun column => column.single scope)] ∨
      ∃ rowCount, scopeGrid columns scope =
        (List.range rowCount).map (fannedRow columns scope rowCount) := by
  unfold scopeGrid boundGrid
  split
  · exact Or.inl rfl
  · refine Or.inr ⟨fanOut columns scope, ?_⟩
    rw [List.map_map]
    rfl

/-- A scope gives a row for each of those that it fans out into. -/
theorem fanOut_le_length_scopeGrid (columns : List Column) (scope : Json) :
    fanOut columns scope ≤ (scopeGrid columns scope).length := by
  rw [scopeGrid, List.length_map]
  unfold boundGrid
  split
  · next hzero =>
    rw [hzero]
    exact Nat.zero_le _
  · rw [List.length_map, List.length_range]

/-- A row of those that a scope fans out into. -/
theorem getD_map_range (f : Nat → List Slot) {rowCount i : Nat} (hi : i < rowCount) :
    ((List.range rowCount).map f).getD i [] = f i := by
  rw [List.getD_eq_getElem?_getD, List.getElem?_map, List.getElem?_range hi]
  rfl

/-! ### The rows that slots cover -/

section Upright

variable {columns : List Column} (h : ∀ column ∈ columns, column.LeavesRowsOpen)

include h

/-- The rows of a scope that does not fan out. -/
theorem rowsIn_single (scope : Json) {c : Nat} (hc : c < columns.length) :
    rowsIn (columns.map fun column => column.single scope) c = 1 := by
  rw [rowsIn_map columns _ hc]
  exact Column.rows_slot (h _ (List.getElem_mem hc)) _

/-- The rows that the slots of one row of a scope cover. -/
theorem rowsIn_fanned (scope : Json) {rowCount i c : Nat} (hsize : rowCount < UInt32.size)
    (hi : i < rowCount) (hc : c < columns.length) :
    rowsIn (columns.map fun column => column.fanned scope rowCount i) c =
      if spreadIn columns scope rowCount c then (if i = 0 then rowCount else 0) else 1 := by
  rw [rowsIn_map columns _ hc, Column.rows_fanned_of_lt (h _ (List.getElem_mem hc)) scope hsize hi,
    spreadIn, List.getElem?_eq_getElem hc]
  rfl

/-- In a row of a scope, a slot of a column that spreads is over other rows than one of a column
that does not. -/
theorem rowsIn_fanned_ne (scope : Json) {rowCount i c c' : Nat} (hsize : rowCount < UInt32.size)
    (hi : i < rowCount) (hc : c < columns.length) (hc' : c' < columns.length)
    (hspread : spreadIn columns scope rowCount c = true)
    (hspread' : spreadIn columns scope rowCount c' = false) :
    rowsIn (columns.map fun column => column.fanned scope rowCount i) c ≠
      rowsIn (columns.map fun column => column.fanned scope rowCount i) c' := by
  have hmany := rowCount_ne_one_of_spreadIn hspread
  rw [rowsIn_fanned h scope hsize hi hc, rowsIn_fanned h scope hsize hi hc', hspread, hspread',
    if_pos rfl, if_neg Bool.false_ne_true]
  split <;> omega

theorem upright_single (scope : Json) :
    Upright columns.length (fun _ => false)
      [mergeRow (columns.map Column.merge) (columns.map fun column => column.single scope)] := by
  refine upright_of_rows fun row hrow => ?_
  rw [List.mem_singleton.1 hrow]
  refine ⟨by simp, fun c hc => ?_⟩
  rw [rowsIn_mergeRow, rowsIn_single h scope hc]

theorem upright_fanned (scope : Json) {rowCount : Nat} (hsize : rowCount < UInt32.size) :
    Upright columns.length (spreadIn columns scope rowCount)
      ((List.range rowCount).map (fannedRow columns scope rowCount)) where
  length row hrow := by
    obtain ⟨i, -, rfl⟩ := List.mem_map.1 hrow
    rw [fannedRow, length_mergeRow, List.length_map]
  rows i hi c hc := by
    rw [List.length_map, List.length_range] at hi ⊢
    rw [getD_map_range _ hi, fannedRow, rowsIn_mergeRow, rowsIn_fanned h scope hsize hi hc]

/-- **The grid of a scope is upright.** -/
theorem exists_upright_scopeGrid {scope : Json}
    (hsize : (scopeGrid columns scope).length < UInt32.size) :
    ∃ spread, Upright columns.length spread (scopeGrid columns scope) := by
  rcases scopeGrid_cases columns scope with hgrid | ⟨rowCount, hgrid⟩
  · exact ⟨_, hgrid ▸ upright_single h scope⟩
  · rw [hgrid, List.length_map, List.length_range] at hsize
    exact ⟨_, hgrid ▸ upright_fanned h scope hsize⟩

/-- **The columns of what is laid out are stacked** if the columns leave the rows of their slots
open, whatever they say about the columns that a slot covers. -/
theorem stacks_layout {scopes : List Json} (hsize : (layout columns scopes).length < UInt32.size)
    {c : Nat} (hc : c < columns.length) :
    Stacks ((column (layout columns scopes) c).map Slot.rows) := by
  have hflags : (columns.map Column.joinRows).length = columns.length := List.length_map _
  have hjoined : Stacks ((column (joinGrids (columns.map Column.joinRows)
      (scopes.map (scopeGrid columns))) c).map Slot.rows) := by
    rw [length_layout] at hsize
    refine stacks_joinGrids (fun grid hgrid => ?_) hsize (hflags.symm ▸ hc)
    have hgridSize := length_lt_of_mem hsize hgrid
    obtain ⟨scope, -, rfl⟩ := List.mem_map.1 hgrid
    rw [hflags]
    exact exists_upright_scopeGrid h hgridSize
  rw [layout, column_map, List.map_map]
  have hclear : Slot.rows ∘ Slot.clear = Slot.rows := funext Slot.rows_clear
  rw [hclear]
  exact hjoined

end Upright

/-! ### The columns that slots cover -/

section Scope

variable {columns : List Column} (h : ∀ column ∈ columns, column.LeavesSpansOpen)
  (hwidth : columns.length < UInt32.size)

include h

theorem leavesRowsOpen_of_mem : ∀ column ∈ columns, column.LeavesRowsOpen :=
  fun column hcolumn => (h column hcolumn).leavesRowsOpen

/-- Every slot has one column when it is bound. -/
theorem columns_of_mem_boundGrid {scope : Json} {row : List Slot}
    (hrow : row ∈ boundGrid columns scope) : ∀ slot ∈ row, slot.columns = 1 := by
  unfold boundGrid at hrow
  split at hrow
  · obtain rfl := List.mem_singleton.1 hrow
    exact List.forall_mem_map.2 fun column hcolumn => Column.columns_slot (h column hcolumn) _
  · obtain ⟨i, -, rfl⟩ := List.mem_map.1 hrow
    exact List.forall_mem_map.2 fun column hcolumn =>
      Column.columns_fanned (h column hcolumn) scope _ i

include hwidth

theorem shape_single (scope : Json) :
    Shape columns.length (fun _ => false)
      [mergeRow (columns.map Column.merge) (columns.map fun column => column.single scope)] where
  toUpright := upright_single (leavesRowsOpen_of_mem h) scope
  separated i hi := by
    have hcolumns : ∀ slot ∈ columns.map fun column => column.single scope, slot.columns = 1 := by
      intro slot hslot
      obtain ⟨column, hcolumn, rfl⟩ := List.mem_map.1 hslot
      exact Column.columns_slot (h column hcolumn) _
    have hseparated := separated_mergeRow (columns.map Column.merge) (fun _ => false) hcolumns
      (by rwa [List.length_map]) fun _ _ hne => absurd rfl hne
    have hfirst : i = 0 := Nat.lt_one_iff.1 hi
    rw [List.length_map] at hseparated
    rw [hfirst]
    exact hseparated

/-- A row of a scope after merging. -/
theorem separated_fanned (scope : Json) {rowCount i : Nat} (hsize : rowCount < UInt32.size)
    (hi : i < rowCount) :
    Separated columns.length (spreadIn columns scope rowCount)
      (columnsIn (fannedRow columns scope rowCount i)) := by
  have hopen := leavesRowsOpen_of_mem h
  have hcolumns :
      ∀ slot ∈ columns.map fun column => column.fanned scope rowCount i, slot.columns = 1 := by
    intro slot hslot
    obtain ⟨column, hcolumn, rfl⟩ := List.mem_map.1 hslot
    exact Column.columns_fanned (h column hcolumn) scope rowCount i
  have hseparated := separated_mergeRow (columns.map Column.merge) (spreadIn columns scope rowCount)
    hcolumns (by rwa [List.length_map]) (fun c hc hne => by
      rw [List.length_map] at hc
      -- one of the two columns spreads, and the other does not
      cases hthis : spreadIn columns scope rowCount c with
      | true =>
        have hnext := Bool.eq_false_iff.2 fun hnext => hne (hthis.trans hnext.symm)
        exact rowsIn_fanned_ne hopen scope hsize hi (Nat.lt_of_succ_lt hc) hc hthis hnext
      | false =>
        have hnext := Bool.of_not_eq_false fun hnext => hne (hthis.trans hnext.symm)
        exact (rowsIn_fanned_ne hopen scope hsize hi hc (Nat.lt_of_succ_lt hc) hnext hthis).symm)
  rwa [List.length_map] at hseparated

/-- The rows of a scope that fans out. -/
theorem shape_fanned (scope : Json) {rowCount : Nat} (hsize : rowCount < UInt32.size) :
    Shape columns.length (spreadIn columns scope rowCount)
      ((List.range rowCount).map (fannedRow columns scope rowCount)) where
  toUpright := upright_fanned (leavesRowsOpen_of_mem h) scope hsize
  separated i hi := by
    rw [List.length_map, List.length_range] at hi
    rw [getD_map_range _ hi]
    exact separated_fanned h hwidth scope hsize hi

/-- **The grid of a scope has a shape.** -/
theorem exists_shape_scopeGrid {scope : Json}
    (hsize : (scopeGrid columns scope).length < UInt32.size) :
    ∃ spread, Shape columns.length spread (scopeGrid columns scope) := by
  rcases scopeGrid_cases columns scope with hgrid | ⟨rowCount, hgrid⟩
  · exact ⟨_, hgrid ▸ shape_single h hwidth scope⟩
  · rw [hgrid, List.length_map, List.length_range] at hsize
    exact ⟨_, hgrid ▸ shape_fanned h hwidth scope hsize⟩

/-- **What is laid out is sound** if the columns leave their spans open, and words can count the
rows and the columns. -/
theorem sound_layout {scopes : List Json} (hsize : (layout columns scopes).length < UInt32.size) :
    Sound columns.length (layout columns scopes) := by
  have hflags : (columns.map Column.joinRows).length = columns.length := List.length_map _
  have hjoined : Sound (columns.map Column.joinRows).length
      (joinGrids (columns.map Column.joinRows) (scopes.map (scopeGrid columns))) := by
    rw [length_layout] at hsize
    refine sound_joinGrids (fun grid hgrid => ?_) hsize
    have hgridSize := length_lt_of_mem hsize hgrid
    obtain ⟨scope, -, rfl⟩ := List.mem_map.1 hgrid
    rw [hflags]
    exact exists_shape_scopeGrid h hwidth hgridSize
  rw [hflags] at hjoined
  exact hjoined.map Slot.rows_clear Slot.columns_clear

end Scope

end Table

end Bindery
