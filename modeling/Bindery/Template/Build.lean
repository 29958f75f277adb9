import Bindery.Template.Basic

/-!
# Building templates

Templates are written as text or built by hand.  Each builder makes a node that shares the scope of
its parent, without styles and flags, and the functions after them say more about a node.
-/

namespace Bindery

namespace Template

/-- A node of which nothing is said but what its kind has. -/
def ofKind (kind : Kind Template) : Template :=
  node ⟨AccessPath.current, [], .unset⟩ kind

/-- A text that comes from the scope of its span. -/
def SpanSource.scope : SpanSource :=
  { value := none, format := SpanFormat.plain, subscript := none, superscript := none,
    reference := none }

/-- A cell that is laid out as it is. -/
def CellSettings.plain : CellSettings :=
  { autoRowSpan := false, merge := .none, rowSpan := none, colSpan := none }

/-- A span with a fixed text. -/
def text (value : String) : Template :=
  ofKind (.span [] { SpanSource.scope with value := some value })

/-- A paragraph. -/
def paragraph (spans : List Template) : Template :=
  ofKind (.paragraph false spans)

/-- A section. -/
def sect (title : Option Template) (contents : List Template) : Template :=
  ofKind (.sect none title contents none)

/-- Contents that are shown on a condition. -/
def conditional (condition : String) (contents : List Template) : Template :=
  ofKind (.conditional contents (some condition))

/-- Elements one after the other. -/
def multi (elements : List Template) : Template :=
  ofKind (.multiElement elements)

/-- A table. -/
def table (headers rows : List Template) : Template :=
  ofKind (.table headers rows)

/-- A row of a table. -/
def row (cells : List Template) : Template :=
  ofKind (.tableRow cells)

/-- A cell of a table. -/
def cell (element : Option Template) : Template :=
  ofKind (.tableCell element .plain)

/-! ## Saying more about a node -/

/-- A template with another head. -/
def mapHead (f : Head → Head) : Template → Template
  | node head kind => node (f head) kind

/-- Where the data of the node lies. -/
def withAccess (access : String) : Template → Template :=
  mapHead fun head => { head with access }

/-- Styles after those that the node has. -/
def withStyles (styles : List Style) : Template → Template :=
  mapHead fun head => { head with styles := head.styles ++ styles }

/-- Whether the node may be edited. -/
def withEditable (editable : Bool) : Template → Template :=
  mapHead fun head => { head with flags := { head.flags with editable := some editable } }

/-- Whether the node may be deleted. -/
def withDeletable (deletable : Bool) : Template → Template :=
  mapHead fun head => { head with flags := { head.flags with deletable := some deletable } }

/-- Whether the node is deleted. -/
def withDeleted (deleted : Bool) : Template → Template :=
  mapHead fun head => { head with flags := { head.flags with deleted := some deleted } }

/-- A span with the text that a path leads to. -/
def field (access : String) : Template :=
  (ofKind (.span [] .scope)).withAccess access

/-- How a cell is laid out.  Other nodes are not changed. -/
def withSettings (settings : CellSettings) : Template → Template
  | node head (.tableCell element _) => node head (.tableCell element settings)
  | template => template

end Template

end Bindery
