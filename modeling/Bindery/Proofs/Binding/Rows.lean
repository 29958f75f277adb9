import Bindery.Binding.Basic
import Bindery.Proofs.Table.Content
import Bindery.Proofs.Table.Kept
import Bindery.Template.Build

/-!
# Rows of a table that are bound

The template of a row whose cells leave their spans open gives a grid for any data, and the spans in
it are the work of layout alone.  So the grid is sound (`Template.sound_rowSlots`), and its cells
tile it exactly if it is aligned: if every slot that is joined to the one above begins in the column
in which that one begins.

Joining does not see to this.  It compares how many columns two slots cover, and not which.  So it
can join a slot that has grown to the left to one that has grown to the right, and then the cells
overlap and leave a place uncovered.  `Template.mergedBothWays` is a row to which that happens.

Down a single column nothing overlaps, since there it does not matter where a slot begins: each row
of a column is covered exactly once (`Template.stacked_bindRows`), even if cells say how many
columns they cover.  And whatever is merged and joined, nothing that a cell shows is lost
(`Template.kept_bindRows`), also where the cells do not tile the grid.

Spans are words of 32 bits.  If cells leave them open, no span is larger than the grid, so all this
holds of grids whose rows and columns a word can count.
-/

namespace Bindery

namespace Doc

/-- How many rows the node covers as a cell. -/
def rowSpan (doc : Doc) : Nat :=
  match doc.kind with
  | .tableCell _ rowSpan _ => (rowSpan.getD 1).toNat
  | _ => 1

/-- How many columns the node covers as a cell. -/
def colSpan (doc : Doc) : Nat :=
  match doc.kind with
  | .tableCell _ _ colSpan => (colSpan.getD 1).toNat
  | _ => 1

/-- The spans of the cells of rows. -/
def spans (width : Nat) (rows : List Doc) : Table.Spans where
  height := rows.length
  width := width
  rows i c := (rows[i]?.bind fun row => row.kind.children[c]?).elim 0 rowSpan
  columns i c := (rows[i]?.bind fun row => row.kind.children[c]?).elim 0 colSpan

theorem rowSpan_toDoc (slot : Table.Slot) : slot.toDoc.rowSpan = slot.rows := rfl

theorem colSpan_toDoc (slot : Table.Slot) : slot.toDoc.colSpan = slot.columns := rfl

end Doc

namespace Template

/-- Whether the template, as a cell, leaves its spans open. -/
def LeavesSpansOpen : Template → Prop
  | node _ (.tableCell _ settings) => settings.rowSpan = none ∧ settings.colSpan = none
  | _ => True

/-- Whether the template, as a cell, leaves open how many rows it covers. -/
def LeavesRowsOpen : Template → Prop
  | node _ (.tableCell _ settings) => settings.rowSpan = none
  | _ => True

theorem leavesRowsOpen_column {template : Template} (h : template.LeavesRowsOpen) :
    template.binding.column.LeavesRowsOpen := by
  obtain ⟨head, kind⟩ := template
  rw [binding_node]
  cases kind with
  | tableCell element settings => exact fun _ => h
  | _ => exact fun _ => rfl

/-- The column of such a template. -/
theorem leavesSpansOpen_column {template : Template} (h : template.LeavesSpansOpen) :
    template.binding.column.LeavesSpansOpen := by
  obtain ⟨head, kind⟩ := template
  rw [binding_node]
  cases kind with
  | tableCell element settings =>
    obtain ⟨hrows, hcolumns⟩ := h
    exact ⟨hcolumns, fun _ => ⟨hrows, hcolumns⟩⟩
  | _ => exact ⟨rfl, fun _ => ⟨rfl, rfl⟩⟩

/-- The slots of the rows that the template of a row with these cells gives, as they are bound and
before any layout. -/
def boundSlots (access : String) (cells : List Template) (ambient : Json) : Table.Grid :=
  (AccessPath.scopes access ambient).flatMap
    (Table.plainGrid (cells.map fun cell => cell.binding.column))

/-- The slots of the rows that the template of a row with these cells gives. -/
def rowSlots (access : String) (cells : List Template) (ambient : Json) : Table.Grid :=
  Table.layout (cells.map fun cell => cell.binding.column) (AccessPath.scopes access ambient)

theorem bindRows_row (head : Head) (cells : List Template) (ambient : Json) :
    (node head (.tableRow cells)).bindRows ambient =
      (rowSlots head.access cells ambient).map head.row := by
  have hcolumns : (cells.map binding).map Binding.column =
      cells.map fun cell => cell.binding.column :=
    List.map_map
  rw [bindRows, binding_node, Kind.map, bindingLayer]
  simp only [gridLayer]
  rw [hcolumns]
  rfl

theorem length_of_mem_rowSlots (access : String) (cells : List Template) (ambient : Json) :
    ∀ slots ∈ rowSlots access cells ambient, slots.length = cells.length := by
  intro slots hslots
  rw [Table.length_of_mem_layout _ hslots, List.length_map]

/-- **The columns of the slots of rows are stacked.** -/
theorem stacks_rowSlots {access : String} {cells : List Template}
    (h : ∀ cell ∈ cells, cell.LeavesRowsOpen) {ambient : Json}
    (hheight : (rowSlots access cells ambient).length < UInt32.size) {c : Nat}
    (hc : c < cells.length) :
    Table.Stacks ((Table.column (rowSlots access cells ambient) c).map Table.Slot.rows) := by
  refine Table.stacks_layout (fun column hcolumn => ?_) hheight ?_
  · obtain ⟨cell, hcell, rfl⟩ := List.mem_map.1 hcolumn
    exact leavesRowsOpen_column (h cell hcell)
  · rwa [List.length_map]

section Slots

variable {access : String} {cells : List Template} (h : ∀ cell ∈ cells, cell.LeavesSpansOpen)
  {ambient : Json} (hwidth : cells.length < UInt32.size)
  (hheight : (rowSlots access cells ambient).length < UInt32.size)

include h

theorem leavesSpansOpen_columns :
    ∀ column ∈ cells.map fun cell => cell.binding.column, column.LeavesSpansOpen := by
  intro column hcolumn
  obtain ⟨cell, hcell, rfl⟩ := List.mem_map.1 hcolumn
  exact leavesSpansOpen_column (h cell hcell)

include hwidth hheight

/-- **The slots of rows are sound.** -/
theorem sound_rowSlots : Table.Sound cells.length (rowSlots access cells ambient) := by
  rw [← List.length_map fun cell => cell.binding.column] at hwidth
  have hsound := Table.sound_layout (leavesSpansOpen_columns h) hwidth hheight
  rwa [List.length_map] at hsound

/-- **The slots of rows keep what is bound.** -/
theorem keeps_rowSlots :
    Table.Keeps (boundSlots access cells ambient) (rowSlots access cells ambient) := by
  rw [← List.length_map fun cell => cell.binding.column] at hwidth
  exact Table.keeps_layout (leavesSpansOpen_columns h) hwidth hheight

end Slots

section Spans

variable (head : Head) (width : Nat) {grid : Table.Grid}

/-- The cell in a place of the rows is the one that the slot there becomes. -/
theorem children_map_row (i c : Nat) :
    ((grid.map head.row)[i]?.bind fun row => row.kind.children[c]?) =
      ((grid.getD i [])[c]?).map Table.Slot.toDoc := by
  have hchildren (slots : List Table.Slot) :
      (head.row slots).kind.children = slots.map Table.Slot.toDoc := rfl
  rw [Table.getElem?_getD_row, List.getElem?_map]
  cases grid[i]? with
  | none => rfl
  | some slots =>
    rw [Option.map_some, Option.bind_some, Option.bind_some, hchildren, List.getElem?_map]

/-- The rows have the spans of their slots. -/
theorem spans_map_row : Doc.spans width (grid.map head.row) = Table.spans width grid := by
  rw [Doc.spans, Table.spans, Table.Spans.mk.injEq]
  refine ⟨List.length_map _, rfl, ?_, ?_⟩
  · funext i c
    rw [children_map_row, Table.rowsIn]
    cases (grid.getD i [])[c]? <;> rfl
  · funext i c
    rw [children_map_row, Table.columnsIn]
    cases (grid.getD i [])[c]? <;> rfl

end Spans

/-- **When the cells of bound rows tile their grid.**  If the cells of the template leave their
spans open, then the cells of the rows can be drawn so that they tile the grid exactly if the grid
of their slots is aligned.  The cells have the spans of the slots.  Words have to be able to count
the rows and the columns. -/
theorem tiled_bindRows_iff (head : Head) {cells : List Template}
    (h : ∀ cell ∈ cells, cell.LeavesSpansOpen) (ambient : Json) :
    (node head (.tableRow cells)).bindRows ambient =
        (rowSlots head.access cells ambient).map head.row ∧
      Doc.spans cells.length ((node head (.tableRow cells)).bindRows ambient) =
        Table.spans cells.length (rowSlots head.access cells ambient) ∧
      ((rowSlots head.access cells ambient).length < UInt32.size → cells.length < UInt32.size →
        ((Doc.spans cells.length ((node head (.tableRow cells)).bindRows ambient)).Tiled ↔
          (Table.spans cells.length (rowSlots head.access cells ambient)).Aligned)) := by
  rw [bindRows_row, spans_map_row]
  exact ⟨rfl, rfl, fun hheight hwidth => (sound_rowSlots h hwidth hheight).tiled_iff⟩

/-- **Every row of a column is covered exactly once.**  If the cells of the template leave open how
many rows they cover, then each row that is bound has a slot for every cell, and the cells of each
column that cover any rows lie inside the grid and cover each of its rows exactly once.  The cells
have the spans of the slots.  Words have to be able to count the rows. -/
theorem stacked_bindRows (head : Head) {cells : List Template}
    (h : ∀ cell ∈ cells, cell.LeavesRowsOpen) (ambient : Json) :
    (node head (.tableRow cells)).bindRows ambient =
        (rowSlots head.access cells ambient).map head.row ∧
      (∀ slots ∈ rowSlots head.access cells ambient, slots.length = cells.length) ∧
      Doc.spans cells.length ((node head (.tableRow cells)).bindRows ambient) =
        Table.spans cells.length (rowSlots head.access cells ambient) ∧
      (((node head (.tableRow cells)).bindRows ambient).length < UInt32.size →
        ∀ c < cells.length,
          Table.Spans.Stacked ((node head (.tableRow cells)).bindRows ambient).length
            fun r => (Doc.spans cells.length
              ((node head (.tableRow cells)).bindRows ambient)).rows r c) := by
  have hlength := length_of_mem_rowSlots head.access cells ambient
  rw [bindRows_row, spans_map_row, List.length_map]
  refine ⟨rfl, hlength, rfl, fun hheight c hc => ?_⟩
  exact Table.stacked_of_stacks hlength hc (stacks_rowSlots h hheight hc)

/-- **What is bound to a cell is kept.**  A cell that is not covered by a neighbour holds what was
bound in its place, and a cell that is covered holds nothing.  If the cells of the template leave
their spans open, and something was bound in the place of a cell that is covered that shows
anything, then it equals the element of the nearest cell above in the column that is not covered.
The cells have the spans of the slots.  For the part on covered cells, words have to be able to
count the rows and the columns. -/
theorem kept_bindRows (head : Head) {cells : List Template}
    (h : ∀ cell ∈ cells, cell.LeavesSpansOpen) (ambient : Json) :
    (node head (.tableRow cells)).bindRows ambient =
        (rowSlots head.access cells ambient).map head.row ∧
      (∀ slots ∈ rowSlots head.access cells ambient, ∀ slot ∈ slots,
        slot.toDoc.rowSpan = slot.rows ∧ slot.toDoc.colSpan = slot.columns) ∧
      Table.Leaves (boundSlots head.access cells ambient)
        (rowSlots head.access cells ambient) ∧
      ((rowSlots head.access cells ambient).length < UInt32.size → cells.length < UInt32.size →
        Table.Keeps (boundSlots head.access cells ambient) (rowSlots head.access cells ambient)) :=
  ⟨bindRows_row head cells ambient,
    fun _ _ slot _ => ⟨Doc.rowSpan_toDoc slot, Doc.colSpan_toDoc slot⟩,
    Table.leaves_layout _ _, fun hheight hwidth => keeps_rowSlots h hwidth hheight⟩

/-- A cell for the text in the given column. -/
def textCell (access : String) (settings : CellSettings) : Template :=
  ((cell (some (ofKind (.span [] .scope)))).withAccess access).withSettings settings

/-- Three cells, of which the outer ones are folded into the middle one, and the middle one is
joined with the one above. -/
def mergedBothWays : List Template :=
  [textCell "a" { CellSettings.plain with merge := .right },
    textCell "b" { CellSettings.plain with autoRowSpan := true },
    textCell "c" { CellSettings.plain with merge := .left }]

/-- Two items, of which the first one lacks what is on the left, and the second one what is on the
right. -/
def lacksBothWays : Json :=
  .object [("items", .array
    [.object [("b", .string "x"), ("c", .string "z")],
      .object [("a", .string "y"), ("b", .string "x")]])]

theorem leavesSpansOpen_mergedBothWays : ∀ cell ∈ mergedBothWays, cell.LeavesSpansOpen := by
  simp [mergedBothWays, textCell, cell, ofKind, withAccess, mapHead, withSettings,
    LeavesSpansOpen, CellSettings.plain]

/-- **Cells that do not tile their grid.**  In the first row the middle cell grows to the left and
in the second row to the right.  As both are two columns wide and hold the same text, they are
joined. -/
theorem mergedBothWays_not_tiled :
    (∀ cell ∈ mergedBothWays, cell.LeavesSpansOpen) ∧
      ¬ (Doc.spans mergedBothWays.length
        ((node ⟨"items", [], .unset⟩ (.tableRow mergedBothWays)).bindRows
          lacksBothWays)).Tiled := by
  have hopen := leavesSpansOpen_mergedBothWays
  obtain ⟨-, -, htiled⟩ := tiled_bindRows_iff ⟨"items", [], .unset⟩ hopen lacksBothWays
  refine ⟨hopen, ?_⟩
  rw [htiled (by decide +kernel) (by decide)]
  intro haligned
  have hmiddle := haligned 0 1 (by decide +kernel) (by decide) (by decide +kernel)
    (by decide +kernel)
  revert hmiddle
  decide +kernel

/-- Although these cells do not tile their grid, nothing is lost: the text of the middle cell of the
second row is covered, and it is seen in the middle cell of the first row. -/
theorem mergedBothWays_kept :
    (∀ cell ∈ mergedBothWays, cell.LeavesSpansOpen) ∧
      Table.Keeps (boundSlots "items" mergedBothWays lacksBothWays)
        (rowSlots "items" mergedBothWays lacksBothWays) ∧
      ∃ was live, Table.slotAt? (boundSlots "items" mergedBothWays lacksBothWays) 1 1 = some was ∧
        was.isBlank = false ∧
        Table.liveAbove? (rowSlots "items" mergedBothWays lacksBothWays) 1 1 = some live ∧
        was.sameElement live = true := by
  have hopen := leavesSpansOpen_mergedBothWays
  obtain ⟨-, -, -, hkept⟩ := kept_bindRows ⟨"items", [], .unset⟩ hopen lacksBothWays
  have hkeeps := hkept (by decide +kernel) (by decide)
  refine ⟨hopen, hkeeps, ?_⟩
  have hshown : (Table.slotAt? (boundSlots "items" mergedBothWays lacksBothWays) 1 1).map
      Table.Slot.isBlank = some false := by decide +kernel
  have hcovered : (Table.slotAt? (rowSlots "items" mergedBothWays lacksBothWays) 1 1).map
      Table.Slot.isCovered = some true := by decide +kernel
  obtain ⟨was, hwas, hblank⟩ := Option.map_eq_some_iff.1 hshown
  obtain ⟨slot, hslot, hslotCovered⟩ := Option.map_eq_some_iff.1 hcovered
  obtain ⟨live, hlive, hsame⟩ := hkeeps.repeated hwas hblank hslot hslotCovered
  exact ⟨was, live, hwas, hblank, hlive, hsame⟩

/-- Two cells that join equal texts, the first of which says that it covers two columns. -/
def groupedCells : List Template :=
  [textCell "group" { CellSettings.plain with autoRowSpan := true, colSpan := some 2 },
    textCell "value" { CellSettings.plain with autoRowSpan := true }]

/-- Two groups, the first one with a text of its own for each value. -/
def twoGroups : Json :=
  .object [("items", .array
    [.object [("group", .array [.string "a", .string "a"]),
        ("value", .array [.string "x", .string "y"])],
      .object [("group", .string "b"),
        ("value", .array [.string "z", .string "z", .string "w"])]])]

/-- In both columns the cells cover each of the five rows once: two and three rows, and one, one,
two and one. -/
theorem groupedCells_stacked :
    (∀ cell ∈ groupedCells, cell.LeavesRowsOpen) ∧
      ((node ⟨"items", [], .unset⟩ (.tableRow groupedCells)).bindRows twoGroups).length = 5 ∧
      ∀ c < 2, Table.Spans.Stacked 5 fun r => (Doc.spans 2
        ((node ⟨"items", [], .unset⟩ (.tableRow groupedCells)).bindRows twoGroups)).rows r c := by
  have hopen : ∀ cell ∈ groupedCells, cell.LeavesRowsOpen := by
    simp [groupedCells, textCell, cell, ofKind, withAccess, mapHead, withSettings,
      LeavesRowsOpen, CellSettings.plain]
  have hlength :
      ((node ⟨"items", [], .unset⟩ (.tableRow groupedCells)).bindRows twoGroups).length = 5 := by
    decide +kernel
  obtain ⟨-, -, -, hstacked⟩ := stacked_bindRows ⟨"items", [], .unset⟩ hopen twoGroups
  rw [hlength] at hstacked
  exact ⟨hopen, hlength, hstacked (by decide)⟩

end Template

end Bindery
