import Bindery.Binding.SpanText
import Bindery.Table.Layout

/-!
# Binding a template to data

Binding follows the access paths of a template into a model.  A node that stands in a list is bound
once for each item where its path leads to an array, and otherwise once; a node that stands alone,
as a title or the element of a cell, is bound once in any case.  A path that leads nowhere gives
`null`, so that spans stay empty, arrays expand to nothing and conditional contents are hidden.

A template can be bound in three roles: as a node, as a cell of the template of a row, where layout
has a say in its data, and as the template of rows, where it gives any number of them.  `Binding`
has what it gives in each of them, and is built from the leaves of the template up.

* `Template.binding`: a template in each of its roles.
* `Template.bind`, `Template.expand`, `Template.bindChild`: as a node in a scope, in a list, and
  alone.
* `Template.bindRows`, `Template.bindRow`, `Template.bindCell`: as rows, a row and a cell.
-/

namespace Bindery

/-- What a template gives in each of its roles. -/
structure Binding where
  /-- Where the data lies, seen from the scope of the parent. -/
  access : String
  /-- As a node, in its own scope.  Hidden contents give nothing. -/
  node : Json → Option Doc
  /-- As a cell of the template of a row. -/
  column : Table.Column
  /-- As the template of rows, in the scope of the table. -/
  rows : Json → List Doc

namespace Binding

/-- As a node in a list. -/
def expand (binding : Binding) (ambient : Json) : List Doc :=
  (AccessPath.scopes binding.access ambient).filterMap binding.node

/-- As a node that stands alone. -/
def alone (binding : Binding) (ambient : Json) : Option Doc :=
  binding.node (AccessPath.resolve binding.access ambient)

/-- The nodes of a list one after the other. -/
def expandAll (bindings : List Binding) (ambient : Json) : List Doc :=
  bindings.flatMap (·.expand ambient)

/-- A node that stands alone, if there is one. -/
def optional (binding : Option Binding) (ambient : Json) : Option Doc :=
  binding.bind (·.alone ambient)

end Binding

namespace Template

open Binding (expandAll optional)

/-- Whether contents are shown: always if nothing is asked, and else only where the path leads to
`true`. -/
def isShown (condition : Option String) (scope : Json) : Bool :=
  match condition with
  | none => true
  | some path =>
    match AccessPath.resolve path scope with
    | .bool shown => shown
    | _ => false

/-- A template node becomes a document node with its styles and flags. -/
def Head.toDoc (head : Head) (kind : Doc.Kind Doc) : Doc :=
  .node ⟨head.styles, head.flags⟩ kind

/-- What a layer becomes in its own scope.  The title of a section is bound in the scope of the
section, whatever its own path. -/
def bindKind (kind : Kind Binding) (scope : Json) : Option (Doc.Kind Doc) :=
  match kind with
  | .document header contents footer =>
    some (.document (optional header scope) (expandAll contents scope) (optional footer scope))
  | .paragraph indent spans => some (.paragraph indent (expandAll spans scope))
  | .span spans source =>
    let spans := if spans.isEmpty then source.runs scope else expandAll spans scope
    some (.span spans (source.text scope spans))
  | .sect level title contents model =>
    some (.sect level none (title.bind (·.node scope)) (expandAll contents scope) model)
  | .table headers rows =>
    some (.table (headers.flatMap (·.rows scope)) (rows.flatMap (·.rows scope)))
  | .tableRow cells => some (.tableRow (cells.map fun cell => (cell.column.single scope).toDoc))
  | .tableCell element settings =>
    some (.tableCell (optional element scope) settings.rowSpan settings.colSpan)
  | .list elements model => some (.list (expandAll elements scope) model)
  | .image path => some (.image (path.or scope.string?))
  | .line line => some (.line line)
  | .conditional contents condition =>
    if isShown condition scope then some (.conditional (expandAll contents scope) condition)
    else none
  | .multiElement elements => some (.multiElement (expandAll elements scope))
  | .multiParagraph paragraphs => some (.multiParagraph (expandAll paragraphs scope))
  | .singleRow elements widths => some (.singleRow (expandAll elements scope) widths)
  | .pageBreak => some .pageBreak
  | .catalog title => some (.catalog (optional title scope) [])
  | .expression id element => some (.expression id (optional element scope) 0)

/-- A layer as a node. -/
def bindLayer (head : Head) (kind : Kind Binding) (scope : Json) : Option Doc :=
  (bindKind kind scope).map head.toDoc

/-- A layer as a column of a table.  What is not a cell is put into one. -/
def columnLayer (head : Head) (kind : Kind Binding) : Table.Column :=
  match kind with
  | .tableCell element settings =>
    { access := head.access
      joinRows := settings.autoRowSpan
      merge := settings.merge
      colSpan := settings.colSpan
      slot := fun scope =>
        { styles := head.styles
          flags := head.flags
          element := optional element scope
          rowSpan := settings.rowSpan
          colSpan := settings.colSpan } }
  | kind =>
    { access := head.access
      joinRows := false
      merge := .none
      colSpan := none
      slot := fun scope => .ofElement (bindLayer head kind scope) }

/-- The slots of the rows that a layer gives.  What is not the template of a row gives none. -/
def gridLayer (access : String) (kind : Kind Binding) (ambient : Json) : Table.Grid :=
  match kind with
  | .tableRow cells => Table.layout (cells.map Binding.column) (AccessPath.scopes access ambient)
  | _ => []

/-- A row of the slots. -/
def Head.row (head : Head) (slots : List Table.Slot) : Doc :=
  head.toDoc (.tableRow (slots.map Table.Slot.toDoc))

/-- A layer in each of its roles. -/
def bindingLayer (head : Head) (kind : Kind Binding) : Binding where
  access := head.access
  node := bindLayer head kind
  column := columnLayer head kind
  rows ambient := (gridLayer head.access kind ambient).map head.row

/-- A template in each of its roles. -/
def binding : Template → Binding :=
  fold bindingLayer

theorem binding_node (head : Head) (kind : Kind Template) :
    (node head kind).binding = bindingLayer head (kind.map binding) := by
  rw [binding, fold, para_node, Kind.map_map]
  rfl

/-- The node that a template becomes in a scope.  Hidden contents become none. -/
def bind (template : Template) (scope : Json) : Option Doc :=
  template.binding.node scope

/-- The nodes that a template becomes in a list: one for each item where its path leads to an
array. -/
def expand (template : Template) (ambient : Json) : List Doc :=
  template.binding.expand ambient

/-- The node that a template becomes where it stands alone. -/
def bindChild (template : Template) (ambient : Json) : Option Doc :=
  template.binding.alone ambient

/-- The rows that a template gives in the scope of a table. -/
def bindRows (template : Template) (ambient : Json) : List Doc :=
  template.binding.rows ambient

/-- The slot that a template becomes as a cell, in its own scope. -/
def bindCell (template : Template) (scope : Json) : Table.Slot :=
  template.binding.column.slot scope

/-- A single row in its own scope, without any layout.  What is not the template of a row gives a
row without cells. -/
def bindRow (template : Template) (scope : Json) : Doc :=
  match template with
  | node head (.tableRow cells) =>
    head.row (cells.map fun cell => cell.binding.column.single scope)
  | node head _ => head.row []

end Template

end Bindery
