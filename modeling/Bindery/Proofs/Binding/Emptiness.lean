import Bindery.Proofs.Binding.Passes
import Bindery.Proofs.Binding.Rows
import Bindery.Proofs.Doc.Emptiness
import Bindery.Proofs.Table.Gathering

/-!
# Empty nodes of bound documents

Merging along the rows of a table discards a cell if its element is empty when it is its turn.  This
is decided before expressions are numbered, and nothing is lost by it.  Numbers are given to what
refers to something, and that is never empty.  So an empty node of a bound document shows nothing,
and neither would a cell that has been discarded, had it been kept and finished
(`Template.showNothing_of_bindDocument`).

Cells without columns are discarded as well, and to have lost them is the same as to have been
merged, as long as a word can count the columns of the row.  In a wider row a cell may lose its
columns although it is not empty (`Table.overflowingRow`).
-/

namespace Bindery

namespace Template

variable {options : Options} {template : Template} {model : Json} {doc : Doc}

/-- Numbers come with references in whatever is finished after it was bound. -/
theorem hasNoLooseNumber_of_isFresh (options : Options) {bound : Doc} (h : bound.IsFresh) :
    ∀ met ∈ (options.finish bound).everywhere, met.HasNoLooseNumber :=
  Doc.hasNoLooseNumber_finish options (fun met hmet => (h met hmet).1)
    fun met hmet => (h met hmet).2

/-- The cells that a row is made of are fresh, before any of them is merged. -/
theorem isFresh_of_mem_boundGrid {cells : List Template} {scope : Json} {row : List Table.Slot}
    (hrow : row ∈ Table.boundGrid (cells.map fun cell => cell.binding.column) scope)
    {slot : Table.Slot} (hslot : slot ∈ row) : slot.toDoc.IsFresh := by
  refine Doc.isFresh_toDoc fun element helement => ?_
  rcases Table.element_of_mem_boundGrid _ hrow hslot with hnone | ⟨column, hcolumn, value, hvalue⟩
  · rw [hnone] at helement
    exact absurd helement (by simp)
  · obtain ⟨cell, -, rfl⟩ := List.mem_map.1 hcolumn
    exact cell.isFresh_binding.element value element (hvalue ▸ helement)

/-- The columns that a slot of a bound row has in the end, and whether it was folded. -/
theorem exists_outcome_of_mem_boundGrid {columns : List Table.Column} {scope : Json}
    {row : List Table.Slot} (hrow : row ∈ Table.boundGrid columns scope) {i : Nat}
    {was : Table.Slot} (hwas : row[i]? = some was) :
    ∃ direction left slot right folded,
      (Table.mergeRow (columns.map Table.Column.merge) row)[i]? = some slot ∧
      (Table.foldedIn (columns.map Table.Column.merge) row)[i]? = some folded ∧
      Table.Outcome (((Table.mergeRow (columns.map Table.Column.merge) row).map
        Table.Slot.columns).sum = (row.map Table.Slot.columns).sum)
        direction was left slot right folded := by
  have hmerged : Table.mergeRow (columns.map Table.Column.merge) row ∈
      Table.scopeGrid columns scope := List.mem_map_of_mem hrow
  obtain ⟨hi, -⟩ := List.getElem?_eq_some_iff.1 hwas
  rw [← Table.length_mergeRow (columns.map Table.Column.merge)] at hi
  have hlt : i < (columns.map Table.Column.merge).length := by
    rw [List.length_map, ← Table.length_of_mem_scopeGrid columns hmerged]
    exact hi
  obtain ⟨left, right, folded, -, -, hfolded, houtcome⟩ :=
    Table.exists_outcome_mergeRow (List.getElem?_eq_getElem hlt) hwas (List.getElem?_eq_getElem hi)
  exact ⟨_, left, _, right, folded, List.getElem?_eq_getElem hi, hfolded, houtcome⟩

/-- **What is empty shows nothing.**  Whatever node of a bound document is empty, its drawing has no
image, no line, no page break and no expression, and its texts are empty and without a number.  The
same is true of a cell that merging along a row folds into another one, if it is finished as it was
bound.  These are the cells that lose their columns, if a word can count those of the row. -/
theorem showNothing_of_bindDocument (h : template.bindDocument options model = .ok doc) :
    (∀ node' ∈ doc.everywhere, node'.isEmpty = true → ∀ inherited,
      Doc.ShowNothing (node'.drawing.events inherited)) ∧
    ∀ (cells : List Template) (scope : Json),
      ∀ row ∈ Table.boundGrid (cells.map fun cell => cell.binding.column) scope,
      ∀ (i : Nat) (was : Table.Slot), row[i]? = some was →
        ((Table.foldedIn (cells.map fun cell => cell.binding.column.merge) row)[i]? = some true →
          ∀ inherited, Doc.ShowNothing ((options.finish was.toDoc).drawing.events inherited)) ∧
        ((row.map Table.Slot.columns).sum < UInt32.size → was.columns ≠ 0 → ∀ slot,
          (Table.mergeRow (cells.map fun cell => cell.binding.column.merge) row)[i]? = some slot →
            (slot.columns = 0 ↔
              (Table.foldedIn (cells.map fun cell => cell.binding.column.merge) row)[i]? =
                some true)) := by
  constructor
  · obtain ⟨bound, -, hfresh, rfl⟩ := exists_of_bindDocument h
    intro node' hnode hempty inherited
    have hloose := hasNoLooseNumber_of_isFresh options hfresh
    exact Doc.showNothing_of_isEmpty (fun met hmet => hloose met (Doc.everywhere_subset hnode hmet))
      hempty inherited
  · intro cells scope row hrow i was hwas
    obtain ⟨direction, left, slot, right, folded, hslot, hfolded, houtcome⟩ :=
      exists_outcome_of_mem_boundGrid hrow hwas
    have hdirections : (cells.map fun cell => cell.binding.column).map Table.Column.merge =
        cells.map fun cell => cell.binding.column.merge := List.map_map
    rw [hdirections] at hslot hfolded houtcome
    rw [hfolded]
    constructor
    · intro htrue inherited
      have hfresh := isFresh_of_mem_boundGrid hrow (List.mem_of_getElem? hwas)
      have hblank : was.toDoc.isBlankCell = true := (houtcome.of_folded (Option.some.inj htrue)).1
      rw [← Doc.isBlankCell_finish options] at hblank
      exact Doc.showNothing_of_isBlankCell (hasNoLooseNumber_of_isFresh options hfresh) hblank
        inherited
    · intro hsize hcolumns slot' hslot'
      obtain rfl := Option.some.inj (hslot.symm.trans hslot')
      have hkept := Table.sum_columns_mergeRow
        (cells.map fun cell => cell.binding.column.merge) hsize
      constructor
      · exact fun hzero => congrArg some (houtcome.folded_of_columns_eq_zero hkept hcolumns hzero)
      · exact fun htrue => houtcome.columns_eq_zero (Option.some.inj htrue)

/-- A text with nothing in it, and beside it a reference without a text, to an expression. -/
def blankBesideReference : Template :=
  multi [ofKind (.expression (some "e") none), paragraph [text ""], paragraph [referenceTo "e"]]

/-- Two cells, the first of which is folded into the second one if it is empty. -/
def foldedLeft : List Template :=
  [textCell "a" { CellSettings.plain with merge := .right }, textCell "b" .plain]

/-- The first paragraph is empty, and the second one is not, as it shows a number.  The first cell
is discarded where its text is missing. -/
theorem blankBesideReference_showNothing :
    ∃ doc, blankBesideReference.bindDocument .standard .null = .ok doc ∧
      doc.everywhere.map Doc.isEmpty = [false, false, true, true, false, false] ∧
      (∀ node' ∈ doc.everywhere, node'.isEmpty = true → ∀ inherited,
        Doc.ShowNothing (node'.drawing.events inherited)) ∧
      ∃ row ∈ Table.boundGrid (foldedLeft.map fun cell => cell.binding.column)
        (.object [("b", .string "x")]), ∃ was, row[0]? = some was ∧
          (Table.foldedIn (foldedLeft.map fun cell => cell.binding.column.merge) row)[0]? =
            some true ∧
          Doc.ShowNothing ((Options.standard.finish was.toDoc).drawing.events none) := by
  obtain ⟨hnodes, hcells⟩ :=
    @showNothing_of_bindDocument .standard blankBesideReference .null _ rfl
  have hrow : ∃ row ∈ Table.boundGrid (foldedLeft.map fun cell => cell.binding.column)
      (.object [("b", .string "x")]), (row[0]?).map Table.Slot.columns = some 1 ∧
        (Table.foldedIn (foldedLeft.map fun cell => cell.binding.column.merge) row)[0]? =
          some true :=
    ⟨_, List.mem_singleton.2 rfl, by decide +kernel, by decide +kernel⟩
  obtain ⟨row, hmem, hbefore, hfolded⟩ := hrow
  obtain ⟨was, hwas, -⟩ := Option.map_eq_some_iff.1 hbefore
  have hnothing := (hcells foldedLeft _ row hmem 0 was hwas).1 hfolded none
  exact ⟨_, rfl, by decide +kernel, hnodes, row, hmem, was, hwas, hfolded, hnothing⟩

end Template

end Bindery
