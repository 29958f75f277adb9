import Bindery.Proofs.Binding.Rows
import Bindery.Proofs.Table.RunLength

/-!
# Bound rows with joined cells

Where no scope of a row fans out, the cells of a column that is flagged are joined across all rows:
their row spans are the lengths of the runs of slots that agree after merging along the rows, each
length followed by zeros (`Template.runLengths_bindRows`).
-/

namespace Bindery

namespace Doc

/-- How many rows the node says to cover as a cell. -/
def rowSpan? (doc : Doc) : Option UInt32 :=
  match doc.kind with
  | .tableCell _ rowSpan _ => rowSpan
  | _ => none

/-- The cells in a column of rows. -/
def cellsIn (rows : List Doc) (c : Nat) : List Doc :=
  Table.column (rows.map fun row => row.kind.children) c

end Doc

namespace Template

/-- Whether the template, as a cell, asks for equal cells below each other to be joined. -/
def joinsRows : Template → Bool
  | node _ (.tableCell _ settings) => settings.autoRowSpan
  | _ => false

theorem joinRows_column (template : Template) :
    template.binding.column.joinRows = template.joinsRows := by
  obtain ⟨head, kind⟩ := template
  rw [binding_node]
  cases kind <;> rfl

/-- The slots of the rows that the template of a row with these cells gives, after merging along the
rows and before joining down the columns. -/
def mergedSlots (access : String) (cells : List Template) (ambient : Json) : Table.Grid :=
  (AccessPath.scopes access ambient).flatMap
    (Table.scopeGrid (cells.map fun cell => cell.binding.column))

/-- The row spans of the cells in a column of bound rows are those of their slots. -/
theorem map_rowSpan?_cellsIn (head : Head) (grid : Table.Grid) (c : Nat) :
    (Doc.cellsIn (grid.map head.row) c).map Doc.rowSpan? =
      (Table.column grid c).map Table.Slot.rowSpan := by
  have hchildren : (grid.map head.row).map (fun row => row.kind.children) =
      grid.map (·.map Table.Slot.toDoc) := List.map_map
  rw [Doc.cellsIn, hchildren, Table.column_map, List.map_map]
  rfl

/-- **Joining encodes the lengths of runs.**  Suppose the cells of the template leave open how many
rows they cover, and no scope gives more than one row.  Then every row has a cell for each column,
and before joining every slot is over one row.  In a column that is flagged, the row spans are the
lengths of the runs of agreeing slots, each followed by zeros, where a slot on its own keeps its
span, as long as a word can count the rows; and in a column that is not flagged all cells are over
one row. -/
theorem runLengths_bindRows (head : Head) {cells : List Template}
    (hopen : ∀ cell ∈ cells, cell.LeavesRowsOpen) (ambient : Json)
    (hsingle : ∀ scope ∈ AccessPath.scopes head.access ambient,
      (Table.scopeGrid (cells.map fun cell => cell.binding.column) scope).length ≤ 1)
    {c : Nat} (hc : c < cells.length) :
    (∀ row ∈ (node head (.tableRow cells)).bindRows ambient,
      row.kind.children.length = cells.length) ∧
    (∀ slot ∈ Table.column (mergedSlots head.access cells ambient) c, slot.rows = 1) ∧
    (∀ run ∈ (Table.column (mergedSlots head.access cells ambient) c).splitBy Table.Slot.agrees,
      run.Pairwise fun above slot => above.agrees slot = true) ∧
    (cells[c].joinsRows = true →
      ((node head (.tableRow cells)).bindRows ambient).length < UInt32.size →
        (Doc.cellsIn ((node head (.tableRow cells)).bindRows ambient) c).map Doc.rowSpan? =
          ((Table.column (mergedSlots head.access cells ambient) c).splitBy
            Table.Slot.agrees).flatMap Table.runSpans) ∧
    (cells[c].joinsRows = false →
      ∀ cell ∈ Doc.cellsIn ((node head (.tableRow cells)).bindRows ambient) c,
        cell.rowSpan?.getD 1 = 1) := by
  have hcolumns : ∀ column ∈ cells.map fun cell => cell.binding.column, column.LeavesRowsOpen :=
    List.forall_mem_map.2 fun cell hcell => leavesRowsOpen_column (hopen cell hcell)
  have hlength : c < (cells.map fun cell => cell.binding.column).length := by rwa [List.length_map]
  have hrows : ∀ slot ∈ Table.column (mergedSlots head.access cells ambient) c, slot.rows = 1 :=
    Table.rows_eq_one_of_mem_column hcolumns hsingle hlength
  have hspans := Table.map_rowSpan_layout hcolumns hsingle hlength
  rw [List.getElem_map, joinRows_column] at hspans
  rw [bindRows_row, List.length_map]
  refine ⟨?_, hrows, fun run => Table.pairwise_of_mem_splitBy, fun hjoins hheight => ?_,
    fun hjoins => ?_⟩
  · intro row hrow
    obtain ⟨slots, hslots, rfl⟩ := List.mem_map.1 hrow
    have hchildren : (head.row slots).kind.children = slots.map Table.Slot.toDoc := rfl
    rw [hchildren, List.length_map, length_of_mem_rowSlots head.access cells ambient slots hslots]
  · have hspans := hspans fun _ => hheight
    rw [hjoins, if_pos rfl] at hspans
    rw [map_rowSpan?_cellsIn, rowSlots, hspans]
    rfl
  · have hspans := hspans fun htrue => absurd (hjoins.symm.trans htrue) Bool.false_ne_true
    rw [hjoins, if_neg Bool.false_ne_true] at hspans
    intro cell hcell
    have hspan := List.mem_map_of_mem (f := Doc.rowSpan?) hcell
    rw [map_rowSpan?_cellsIn, rowSlots, hspans] at hspan
    obtain ⟨slot, hslot, hspan⟩ := List.mem_map.1 hspan
    rw [← hspan]
    exact UInt32.toNat.inj (hrows slot hslot)

/-- Two columns of texts, of which the first one joins equal texts. -/
def tallyCells : List Template :=
  [textCell "kind" { CellSettings.plain with autoRowSpan := true },
    textCell "name" CellSettings.plain]

/-- Six items: three of a kind, then two of another one, and one on its own. -/
def tally : Json :=
  .object [("items", .array
    ((["a", "a", "a", "b", "b", "a"]).map fun kind =>
      .object [("kind", .string kind), ("name", .string "x")]))]

/-- The runs of three, two and one in the first column, and in the second column equal texts that
are not joined. -/
theorem tallyCells_runLengths :
    (Doc.cellsIn ((node ⟨"items", [], .unset⟩ (.tableRow tallyCells)).bindRows tally) 0).map
        Doc.rowSpan? = [some 3, some 0, some 0, some 2, some 0, none] ∧
      ∀ cell ∈ Doc.cellsIn ((node ⟨"items", [], .unset⟩ (.tableRow tallyCells)).bindRows tally) 1,
        cell.rowSpan?.getD 1 = 1 := by
  have hopen : ∀ cell ∈ tallyCells, cell.LeavesRowsOpen := by
    simp [tallyCells, textCell, cell, ofKind, withAccess, mapHead, withSettings,
      LeavesRowsOpen, CellSettings.plain]
  have hsingle : ∀ scope ∈ AccessPath.scopes "items" tally,
      (Table.scopeGrid (tallyCells.map fun cell => cell.binding.column) scope).length ≤ 1 := by
    decide +kernel
  obtain ⟨-, -, -, hjoined, -⟩ :=
    runLengths_bindRows ⟨"items", [], .unset⟩ hopen tally hsingle (c := 0) (by decide)
  obtain ⟨-, -, -, -, hplain⟩ :=
    runLengths_bindRows ⟨"items", [], .unset⟩ hopen tally hsingle (c := 1) (by decide)
  refine ⟨?_, hplain rfl⟩
  rw [hjoined rfl (by decide +kernel)]
  decide +kernel

end Template

end Bindery
