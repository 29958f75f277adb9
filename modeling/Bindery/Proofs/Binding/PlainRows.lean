import Bindery.Proofs.Binding.Rows
import Bindery.Proofs.Table.GridShape

/-!
# Rows that layout leaves alone

There are two ways from the template of a row to rows.  In a table they are laid out
(`Template.bindRows`): scopes fan out, slots are merged and joined, and what is covered is cleared.
Elsewhere the template is a node in a list like any other and is bound once for each of its scopes
(`Template.expand`), where nothing is known of layout.

The two agree where layout has nothing to do (`Template.bindRows_eq_expand`).  That asks two things.
No cell may ask for a merge, for joining or for a span of zero, and no row may fan out.  The first
is a matter of the template, the second one of the data: a row fans out if its scope is an object in
which the path of some cell leads to an array that has items.  An array without items does not
count, and neither does an array in a scope that is itself no object, since a row does not look into
such a scope.  In all of these cases the cell is bound to the array as a whole, as it is in a list.

Layout is followed stage by stage: no fan-out gives one row for each scope
(`Table.boundGrid_of_fanOut_eq_zero`), and merging, joining and clearing then keep all of its slots
(`Table.layout_of_isSettled`).
-/

namespace Bindery

namespace Table

/-! ## Stages with nothing to do -/

theorem mergeFrom_of_forall_none (done : List Slot) {directions : List CellMerge}
    (h : ∀ direction ∈ directions, direction = .none) (slots : List Slot) :
    mergeFrom done directions slots = done.reverse ++ slots := by
  have hfold (before : List Slot) (slot : Slot) (after : List Slot) :
      fold? .none before slot after = none := by
    unfold fold?
    split <;> rfl
  induction directions generalizing done slots with
  | nil => rfl
  | cons direction directions ih =>
    obtain ⟨rfl, hrest⟩ := List.forall_mem_cons.1 h
    cases slots with
    | nil => rfl
    | cons slot slots =>
      rw [mergeFrom, hfold]
      simp only [ih _ hrest, List.reverse_cons, List.append_assoc, List.singleton_append]

/-- A row in which no column has a direction is not merged. -/
theorem mergeRow_of_forall_none {directions : List CellMerge}
    (h : ∀ direction ∈ directions, direction = .none) (row : List Slot) :
    mergeRow directions row = row := by
  rw [mergeRow, mergeFrom_of_forall_none [] h]
  rfl

/-- A grid in which no column is flagged is not joined. -/
theorem joinGrid_of_forall_false {flags : List Bool} (h : ∀ flag ∈ flags, flag = false)
    {grid : Grid} (hlength : ∀ row ∈ grid, row.length = flags.length) :
    joinGrid flags grid = grid := by
  refine eq_of_column_eq (length_joinGrid hlength) (length_of_mem_joinGrid hlength) hlength
    fun c hc => ?_
  rw [column_joinGrid hlength hc, h _ (List.getElem_mem hc)]
  rfl

theorem joinGrids_of_forall_false {flags : List Bool} (h : ∀ flag ∈ flags, flag = false)
    {grids : List Grid} (hlength : ∀ grid ∈ grids, ∀ row ∈ grid, row.length = flags.length) :
    joinGrids flags grids = grids.flatten := by
  unfold joinGrids
  split
  · have hgrids : ∀ grid ∈ grids, joinGrid flags grid = id grid := fun grid hgrid =>
      joinGrid_of_forall_false h (hlength grid hgrid)
    rw [List.flatMap_congr hgrids, List.flatMap_id]
  · refine joinGrid_of_forall_false h fun row hrow => ?_
    obtain ⟨grid, hgrid, hrow⟩ := List.mem_flatten.1 hrow
    exact hlength grid hgrid row hrow

/-! ## Columns with nothing to do -/

/-- Layout finds nothing to do in the slots of the column: they are not joined, not folded into a
neighbour, and not covered from the start. -/
structure Column.IsSettled (column : Column) : Prop where
  joinRows : column.joinRows = false
  merge : column.merge = .none
  isCovered : ∀ value, (column.slot value).isCovered = false

/-- A scope fans out only if some column has items in it. -/
theorem fanOut_eq_zero {columns : List Column} {scope : Json}
    (h : ∀ column ∈ columns, column.itemCount scope = 0) : fanOut columns scope = 0 := by
  by_contra hne
  obtain ⟨-, column, hcolumn, hcount⟩ := exists_itemCount_eq_fanOut hne
  exact hne (hcount.symm.trans (h column hcolumn))

theorem boundGrid_of_fanOut_eq_zero {columns : List Column} {scope : Json}
    (h : fanOut columns scope = 0) :
    boundGrid columns scope = [columns.map fun column => column.single scope] := by
  rw [boundGrid, h]
  rfl

/-- **Layout keeps settled rows.**  Where no scope fans out, there is one row for each of them, with
the slots as they are bound. -/
theorem layout_of_isSettled {columns : List Column} (h : ∀ column ∈ columns, column.IsSettled)
    {scopes : List Json} (hscopes : ∀ scope ∈ scopes, fanOut columns scope = 0) :
    layout columns scopes =
      scopes.map fun scope => columns.map fun column => column.single scope := by
  have hmerge : ∀ direction ∈ columns.map Column.merge, direction = .none :=
    List.forall_mem_map.2 fun column hcolumn => (h column hcolumn).merge
  have hjoin : ∀ flag ∈ columns.map Column.joinRows, flag = false :=
    List.forall_mem_map.2 fun column hcolumn => (h column hcolumn).joinRows
  have hgrid : ∀ scope ∈ scopes,
      scopeGrid columns scope = [columns.map fun column => column.single scope] := by
    intro scope hscope
    rw [scopeGrid, boundGrid_of_fanOut_eq_zero (hscopes scope hscope), List.map_singleton,
      mergeRow_of_forall_none hmerge]
  have hclear (scope : Json) :
      (columns.map fun column => column.single scope).map Slot.clear =
        columns.map fun column => column.single scope := by
    rw [List.map_map]
    exact List.map_congr_left fun column hcolumn =>
      Slot.clear_of_isCovered_eq_false ((h column hcolumn).isCovered _)
  rw [layout, joinGrids_of_forall_false hjoin (length_of_mem_scopeGrids columns scopes),
    List.map_congr_left hgrid, ← List.flatMap_def, ← List.map_eq_flatMap, List.map_map]
  exact List.map_congr_left fun scope _ => hclear scope

end Table

namespace Template

/-- Whether the template, as a cell, asks nothing of layout: no merge, no joining and no span of
zero. -/
def LeavesLayoutOpen : Template → Prop
  | node _ (.tableCell _ settings) =>
    settings.merge = .none ∧ settings.autoRowSpan = false ∧
      settings.rowSpan ≠ some 0 ∧ settings.colSpan ≠ some 0
  | _ => True

/-- Where the data of the node lies, seen from the scope of its parent. -/
def access : Template → String
  | node head _ => head.access

/-- The column of such a template is settled. -/
theorem isSettled_column {template : Template} (h : template.LeavesLayoutOpen) :
    template.binding.column.IsSettled := by
  obtain ⟨head, kind⟩ := template
  rw [binding_node]
  cases kind with
  | tableCell element settings =>
    obtain ⟨hmerge, hjoin, hrows, hcolumns⟩ := h
    have hspan {span : Option UInt32} (hspan : span ≠ some 0) : (span.getD 1).toNat ≠ 0 := by
      cases span with
      | none => decide
      | some n =>
        intro hzero
        exact hspan (congrArg some (UInt32.toNat.inj hzero))
    refine ⟨hjoin, hmerge, fun value => ?_⟩
    rw [Table.Slot.isCovered, Bool.or_eq_false_iff]
    exact ⟨beq_false_of_ne (hspan hrows), beq_false_of_ne (hspan hcolumns)⟩
  | _ => exact ⟨rfl, rfl, fun _ => rfl⟩

theorem data_column (template : Template) (scope : Json) :
    template.binding.column.data scope = AccessPath.resolve template.access scope := by
  obtain ⟨head, kind⟩ := template
  rw [binding_node]
  cases kind <;> rfl

theorem itemCount_column {template : Template} {scope : Json}
    (h : ∀ items, AccessPath.resolve template.access scope = .array items → items = []) :
    template.binding.column.itemCount scope = 0 := by
  rw [Table.Column.itemCount, data_column]
  cases hresolve : AccessPath.resolve template.access scope with
  | array items => rw [h items hresolve]; rfl
  | _ => rfl

/-- The template of a row in a list gives a row for each of its scopes. -/
theorem expand_row (head : Head) (cells : List Template) (ambient : Json) :
    (node head (.tableRow cells)).expand ambient =
      (AccessPath.scopes head.access ambient).map (node head (.tableRow cells)).bindRow := by
  have hnode : (node head (.tableRow cells)).binding.node =
      some ∘ (node head (.tableRow cells)).bindRow := by
    funext scope
    rw [binding_node]
    simp only [bindingLayer, bindLayer, Kind.map, bindKind, Option.map_some, Function.comp_apply,
      bindRow, Head.row, List.map_map]
    rfl
  rw [expand, Binding.expand, hnode, List.filterMap_eq_map, binding_node]
  rfl

/-- **Rows in a table and rows in a list are the same** where layout has nothing to do: if no cell
of the template asks for a merge, for joining or for a span of zero, and if in no scope of a row
that is an object the path of a cell leads to an array with items. -/
theorem bindRows_eq_expand (head : Head) {cells : List Template}
    (h : ∀ cell ∈ cells, cell.LeavesLayoutOpen) {ambient : Json}
    (hdata : ∀ scope ∈ AccessPath.scopes head.access ambient, scope.object?.isSome = true →
      ∀ cell ∈ cells, ∀ items, AccessPath.resolve cell.access scope = .array items → items = []) :
    (node head (.tableRow cells)).bindRows ambient =
      (node head (.tableRow cells)).expand ambient := by
  have hsettled : ∀ column ∈ cells.map fun cell => cell.binding.column, column.IsSettled :=
    List.forall_mem_map.2 fun cell hcell => isSettled_column (h cell hcell)
  have hscopes : ∀ scope ∈ AccessPath.scopes head.access ambient,
      Table.fanOut (cells.map fun cell => cell.binding.column) scope = 0 := by
    intro scope hscope
    cases scope with
    | object entries =>
      exact Table.fanOut_eq_zero (List.forall_mem_map.2 fun cell hcell =>
        itemCount_column (hdata _ hscope rfl cell hcell))
    | _ => rfl
  rw [bindRows_row, rowSlots, Table.layout_of_isSettled hsettled hscopes, expand_row, List.map_map]
  refine List.map_congr_left fun scope _ => ?_
  rw [Function.comp_apply, List.map_map]
  rfl

/-- A cell over two columns, a plain cell, and a text that is no cell. -/
def settledCells : List Template :=
  [textCell "name" { CellSettings.plain with colSpan := some 2 },
    textCell "phones" CellSettings.plain, field "."]

/-- A person without phones. -/
def withoutPhones : Json :=
  .object [("name", .string "a"), ("phones", .array [])]

/-- Three scopes: an object with an empty array, an array, and no value at all. -/
def mixedScopes : Json :=
  .object [("items", .array [withoutPhones, .array [.string "x", .string "y"], .null])]

/-- None of the three fans out, so each of them gives the row that it gives in a list. -/
theorem settledCells_expand :
    (∀ cell ∈ settledCells, cell.LeavesLayoutOpen) ∧
      ((node ⟨"items", [], .unset⟩ (.tableRow settledCells)).bindRows mixedScopes).length = 3 ∧
      (node ⟨"items", [], .unset⟩ (.tableRow settledCells)).bindRows mixedScopes =
        (node ⟨"items", [], .unset⟩ (.tableRow settledCells)).expand mixedScopes := by
  have hopen : ∀ cell ∈ settledCells, cell.LeavesLayoutOpen := by
    simp [settledCells, textCell, cell, ofKind, field, withAccess, mapHead, withSettings,
      LeavesLayoutOpen, CellSettings.plain]
  have hlength :
      ((node ⟨"items", [], .unset⟩ (.tableRow settledCells)).bindRows mixedScopes).length = 3 := by
    decide +kernel
  have hscopes : AccessPath.scopes "items" mixedScopes =
      [withoutPhones, .array [.string "x", .string "y"], .null] := by rfl
  have hname : AccessPath.resolve "name" withoutPhones = .string "a" := by rfl
  have hphones : AccessPath.resolve "phones" withoutPhones = .array [] := by rfl
  have hcurrent : AccessPath.resolve "." withoutPhones = withoutPhones := by rfl
  have hdata : ∀ scope ∈ AccessPath.scopes "items" mixedScopes, scope.object?.isSome = true →
      ∀ cell ∈ settledCells, ∀ items,
        AccessPath.resolve cell.access scope = .array items → items = [] := by
    rw [hscopes]
    intro scope hscope hobject cell hcell items hitems
    simp only [List.mem_cons, List.not_mem_nil, or_false] at hscope
    obtain rfl | rfl | rfl := hscope
    · simp only [settledCells, List.mem_cons, List.not_mem_nil, or_false] at hcell
      obtain rfl | rfl | rfl := hcell
      · exact absurd (hname.symm.trans hitems) Json.noConfusion
      · exact (Json.array.inj (hphones.symm.trans hitems)).symm
      · exact absurd (hcurrent.symm.trans hitems) Json.noConfusion
    · exact absurd hobject Bool.noConfusion
    · exact absurd hobject Bool.noConfusion
  exact ⟨hopen, hlength, bindRows_eq_expand _ hopen hdata⟩

end Template

end Bindery
