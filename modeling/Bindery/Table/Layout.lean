import Bindery.AccessPath
import Bindery.Table.ColumnMerge
import Bindery.Table.RowJoin

/-!
# Laying out the rows of a table

The template of a row describes columns, and data gives it scopes: one for each item of an array, or
a single one.  Within the scope of a row, a column whose data is again an array makes the row *fan
out*: there are as many rows as the longest such array has items, a column of a single value spans
them all, and a column with fewer items is filled up with empty slots.

Then empty slots are merged along each row, equal slots are joined down the columns, and what is
covered by a neighbour is cleared.  Slots are joined within a scope that fanned out, and across
scopes only where none did.

Layout does not depend on how a slot gets its content: a `Column` comes with a function for that.

* `Table.scopeGrid`: the rows of one scope, before slots are joined.
* `Table.layout`: the rows of all scopes.
-/

namespace Bindery

namespace Table

/-- A column of a row. -/
structure Column where
  /-- Where the data of the column lies in the scope of a row. -/
  access : String
  /-- Whether equal slots below each other are joined. -/
  joinRows : Bool
  /-- Where slots that show nothing are folded to. -/
  merge : CellMerge
  /-- The columns that a slot covers at first, also one without content. -/
  colSpan : Option UInt32
  /-- The slot for a value. -/
  slot : Json → Slot

namespace Column

/-- The data of a column in the scope of a row. -/
def data (column : Column) (scope : Json) : Json :=
  AccessPath.resolve column.access scope

/-- The slot of a column in a scope that does not fan out. -/
def single (column : Column) (scope : Json) : Slot :=
  column.slot (column.data scope)

/-- How many items the data of a column has.  A single value has none. -/
def itemCount (column : Column) (scope : Json) : Nat :=
  ((column.data scope).array?.getD []).length

/-- The slot of a column in one of the rows that a scope fans out into. -/
def fanned (column : Column) (scope : Json) (rowCount row : Nat) : Slot :=
  match column.data scope with
  | .array items =>
    match items[row]? with
    | some item => column.slot item
    | none => .placeholder none column.colSpan
  | value =>
    if row = 0 then { column.slot value with rowSpan := some (.ofNat rowCount) }
    else .placeholder (some 0) column.colSpan

end Column

/-- How many rows a scope fans out into; zero if it does not.  Only an object has columns with data
of their own. -/
def fanOut (columns : List Column) (scope : Json) : Nat :=
  match scope with
  | .object _ => (columns.map fun column => column.itemCount scope).foldl Nat.max 0
  | _ => 0

/-- The rows of a scope with the slots as they are bound. -/
def boundGrid (columns : List Column) (scope : Json) : Grid :=
  match fanOut columns scope with
  | 0 => [columns.map fun column => column.single scope]
  | rowCount => (List.range rowCount).map fun row =>
      columns.map fun column => column.fanned scope rowCount row

/-- The rows of a scope after merging along the rows. -/
def scopeGrid (columns : List Column) (scope : Json) : Grid :=
  (boundGrid columns scope).map (mergeRow (columns.map Column.merge))

/-- The rows of grids below each other after joining down the columns: within each grid if any has
more than one row, and else across all of them. -/
def joinGrids (flags : List Bool) (grids : List Grid) : Grid :=
  if grids.any (1 < ·.length) then grids.flatMap (joinGrid flags)
  else joinGrid flags grids.flatten

/-- The rows of all scopes. -/
def layout (columns : List Column) (scopes : List Json) : Grid :=
  (joinGrids (columns.map Column.joinRows) (scopes.map (scopeGrid columns))).map
    (·.map Slot.clear)

end Table

end Bindery
