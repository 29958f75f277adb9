import Bindery.Proofs.Table.RowJoin
import Bindery.Table.Layout

/-!
# What the slots of a layout hold

Layout moves spans and nothing else.  A slot keeps its styles, its flags and its element through
merging and joining (`map_content_joinGrids`), and only at the end what is covered by a neighbour is
cleared.  So every element of a grid is what a column gave for some value
(`element_of_mem_layout`).

Merging is followed along the row and joining down the columns.  That two grids hold the same can be
seen from their columns (`eq_of_column_eq`), which is how the statement for columns becomes one for
rows again.
-/

namespace Bindery

namespace Table

/-- A slot with what it holds, and without its spans. -/
def Slot.content (slot : Slot) : Slot :=
  { slot with rowSpan := none, colSpan := none }

/-- **Merging changes nothing that a row holds.** -/
@[simp] theorem map_content_mergeRow (directions : List CellMerge) (row : List Slot) :
    (mergeRow directions row).map Slot.content = row.map Slot.content :=
  map_mergeRow (fun _ _ => rfl) (fun _ => rfl) directions row

/-! ## Joining a grid -/

/-- Rows of the same width with the same columns are the same. -/
theorem eq_of_column_eq {α : Type} {width : Nat} {rows rows' : List (List α)}
    (hlength : rows.length = rows'.length) (hrows : ∀ row ∈ rows, row.length = width)
    (hrows' : ∀ row ∈ rows', row.length = width)
    (h : ∀ c < width, column rows c = column rows' c) : rows = rows' := by
  refine List.ext_getElem hlength fun i hi hi' => ?_
  have hwidth := hrows _ (List.getElem_mem hi)
  have hwidth' := hrows' _ (List.getElem_mem hi')
  refine List.ext_getElem (hwidth.trans hwidth'.symm) fun c hc hc' => ?_
  have hlt : c < width := hwidth ▸ hc
  have hplace := congrArg (·[i]?) (h c hlt)
  simp only [getElem?_column fun row hrow => (hrows row hrow).symm ▸ hlt,
    getElem?_column fun row hrow => (hrows' row hrow).symm ▸ hlt, List.getElem?_eq_getElem hi,
    List.getElem?_eq_getElem hi', Option.bind_some, List.getElem?_eq_getElem hc,
    List.getElem?_eq_getElem hc', Option.some.injEq] at hplace
  exact hplace

section Keeps

variable {α : Type} {f : Slot → α} (hlengthen : ∀ slot, f slot.lengthen = f slot)
  (hunder : ∀ slot, f slot.underAbove = f slot)

include hlengthen hunder

/-- What does not depend on the rows of a slot is not changed by joining the columns of a grid. -/
theorem map_joinGrid {flags : List Bool} {grid : Grid}
    (h : ∀ row ∈ grid, row.length = flags.length) :
    (joinGrid flags grid).map (·.map f) = grid.map (·.map f) := by
  have hwidth {grid : Grid} (h : ∀ row ∈ grid, row.length = flags.length) :
      ∀ row ∈ grid.map (·.map f), row.length = flags.length := by
    intro row hrow
    obtain ⟨row, hmem, rfl⟩ := List.mem_map.1 hrow
    rw [List.length_map, h row hmem]
  refine eq_of_column_eq (by rw [List.length_map, List.length_map, length_joinGrid h])
    (hwidth (length_of_mem_joinGrid h)) (hwidth h) fun c hc => ?_
  rw [column_map, column_map, column_joinGrid h hc]
  split
  · exact map_joinColumn hlengthen hunder _
  · rfl

/-- It is not changed either by joining several grids, be it within them or across them. -/
theorem map_joinGrids {flags : List Bool} {grids : List Grid}
    (h : ∀ grid ∈ grids, ∀ row ∈ grid, row.length = flags.length) :
    (joinGrids flags grids).map (·.map f) = grids.flatten.map (·.map f) := by
  unfold joinGrids
  split
  · rw [List.map_flatMap, List.map_flatten, ← List.flatMap_def]
    exact List.flatMap_congr fun grid hgrid => map_joinGrid hlengthen hunder (h grid hgrid)
  · refine map_joinGrid hlengthen hunder fun row hrow => ?_
    obtain ⟨grid, hgrid, hrow⟩ := List.mem_flatten.1 hrow
    exact h grid hgrid row hrow

end Keeps

/-! ## Whole layouts -/

section Layout

variable (columns : List Column)

theorem length_of_mem_scopeGrid {scope : Json} {row : List Slot}
    (h : row ∈ scopeGrid columns scope) : row.length = columns.length := by
  obtain ⟨bound, hbound, rfl⟩ := List.mem_map.1 h
  rw [length_mergeRow]
  unfold boundGrid at hbound
  split at hbound
  · rw [List.mem_singleton.1 hbound, List.length_map]
  · obtain ⟨i, -, rfl⟩ := List.mem_map.1 hbound
    rw [List.length_map]

/-- The grids of all scopes have a slot in each row for every column that may be joined. -/
theorem length_of_mem_scopeGrids (scopes : List Json) :
    ∀ grid ∈ scopes.map (scopeGrid columns), ∀ row ∈ grid,
      row.length = (columns.map Column.joinRows).length := by
  intro grid hgrid row hrow
  obtain ⟨scope, -, rfl⟩ := List.mem_map.1 hgrid
  rw [length_of_mem_scopeGrid columns hrow, List.length_map]

/-- What is joined, be it within the scopes or across them, has as many slots in each row as there
are columns. -/
theorem length_of_mem_joinGrids {flags : List Bool} {grids : List Grid}
    (h : ∀ grid ∈ grids, ∀ row ∈ grid, row.length = flags.length) :
    ∀ row ∈ joinGrids flags grids, row.length = flags.length := by
  unfold joinGrids
  split
  · intro row hrow
    obtain ⟨grid, hgrid, hrow⟩ := List.mem_flatMap.1 hrow
    exact length_of_mem_joinGrid (h grid hgrid) row hrow
  · refine length_of_mem_joinGrid fun row hrow => ?_
    obtain ⟨grid, hgrid, hrow⟩ := List.mem_flatten.1 hrow
    exact h grid hgrid row hrow

theorem length_of_mem_layout {scopes : List Json} {row : List Slot}
    (h : row ∈ layout columns scopes) : row.length = columns.length := by
  obtain ⟨joined, hjoined, rfl⟩ := List.mem_map.1 h
  have hwidth := length_of_mem_scopeGrids columns scopes
  rw [List.length_map, length_of_mem_joinGrids hwidth joined hjoined, List.length_map]

/-- The rows of a layout are those of the scopes, one for each. -/
theorem length_layout (scopes : List Json) :
    (layout columns scopes).length = (scopes.map (scopeGrid columns)).flatten.length := by
  have hcontents := map_joinGrids (f := Slot.content) (fun _ => rfl) (fun _ => rfl)
    (length_of_mem_scopeGrids columns scopes)
  have hlength := congrArg List.length hcontents
  rwa [List.length_map, List.length_map, ← List.length_map (·.map Slot.clear)] at hlength

theorem map_content_scopeGrid (scope : Json) :
    (scopeGrid columns scope).map (·.map Slot.content) =
      (boundGrid columns scope).map (·.map Slot.content) := by
  rw [scopeGrid, List.map_map]
  exact List.map_congr_left fun row _ => map_content_mergeRow _ row

/-- **Layout changes nothing that slots hold** before the covered ones are cleared: each slot holds
what it was bound to. -/
theorem map_content_joinGrids (scopes : List Json) :
    (joinGrids (columns.map Column.joinRows) (scopes.map (scopeGrid columns))).map
        (·.map Slot.content) =
      (scopes.flatMap (boundGrid columns)).map (·.map Slot.content) := by
  rw [map_joinGrids (fun _ => rfl) (fun _ => rfl) (length_of_mem_scopeGrids columns scopes),
    List.map_flatten, List.map_map, List.map_flatMap]
  exact List.flatMap_congr fun scope _ => map_content_scopeGrid columns scope

theorem element_clear (slot : Slot) :
    slot.clear.element = none ∨ slot.clear.element = slot.element := by
  unfold Slot.clear
  split
  · exact Or.inl rfl
  · exact Or.inr rfl

/-- Every element of the rows of a scope is what some column gave for a value. -/
theorem element_of_mem_boundGrid {scope : Json} {row : List Slot} {slot : Slot}
    (hrow : row ∈ boundGrid columns scope) (hslot : slot ∈ row) :
    slot.element = none ∨
      ∃ column ∈ columns, ∃ value, slot.element = (column.slot value).element := by
  have hfanned (column : Column) (rowCount i : Nat) :
      (column.fanned scope rowCount i).element = none ∨
        ∃ value, (column.fanned scope rowCount i).element = (column.slot value).element := by
    unfold Column.fanned
    split
    · split
      · exact Or.inr ⟨_, rfl⟩
      · exact Or.inl rfl
    · split
      · exact Or.inr ⟨_, rfl⟩
      · exact Or.inl rfl
  unfold boundGrid at hrow
  split at hrow
  · rw [List.mem_singleton.1 hrow] at hslot
    obtain ⟨column, hcolumn, rfl⟩ := List.mem_map.1 hslot
    exact Or.inr ⟨column, hcolumn, _, rfl⟩
  · obtain ⟨i, -, rfl⟩ := List.mem_map.1 hrow
    obtain ⟨column, hcolumn, rfl⟩ := List.mem_map.1 hslot
    exact (hfanned column _ i).imp_right fun h => ⟨column, hcolumn, h⟩

/-- **Every element of a layout** is what some column gave for a value. -/
theorem element_of_mem_layout {scopes : List Json} {row : List Slot} {slot : Slot}
    (hrow : row ∈ layout columns scopes) (hslot : slot ∈ row) :
    slot.element = none ∨
      ∃ column ∈ columns, ∃ value, slot.element = (column.slot value).element := by
  obtain ⟨joined, hjoined, rfl⟩ := List.mem_map.1 hrow
  obtain ⟨before, hbefore, rfl⟩ := List.mem_map.1 hslot
  rcases element_clear before with hclear | hclear
  · exact Or.inl hclear
  · -- the row of bound slots that holds the same as the joined row
    have hcontents := List.mem_map_of_mem (f := (·.map Slot.content)) hjoined
    rw [map_content_joinGrids] at hcontents
    obtain ⟨bound, hbound, hrows⟩ := List.mem_map.1 hcontents
    have hcontent := List.mem_map_of_mem (f := Slot.content) hbefore
    rw [← hrows] at hcontent
    obtain ⟨slot', hslot', hslot⟩ := List.mem_map.1 hcontent
    obtain ⟨scope, -, hgrid⟩ := List.mem_flatMap.1 hbound
    have helement : slot'.element = before.element := congrArg (fun slot => slot.element) hslot
    rw [hclear, ← helement]
    exact element_of_mem_boundGrid columns hgrid hslot'

end Layout

end Table

end Bindery
