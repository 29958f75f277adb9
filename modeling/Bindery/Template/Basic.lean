import Bindery.AccessPath
import Bindery.Format.Placeholder
import Bindery.ListModel
import Bindery.Node.Kind
import Bindery.Node.Line

/-!
# Templates

A template is the authored form of a document: a tree of nodes with access paths where the data of a
model goes.  `Template.Kind ν` is one layer of it, a node without what all nodes share, over nodes
`ν`; a template is a tree of such layers.

Functions on templates are given on one layer and lifted to trees by `Template.para`, which hands a
function the layer with each node replaced by the node and its result.
-/

namespace Bindery

namespace Template

/-- What every template node has: where its data lies, seen from the scope of its parent, and its
styles and flags. -/
structure Head where
  access : String
  styles : List Style
  flags : Flags
deriving DecidableEq

/-- Where the text of a span comes from, and how it is set. -/
structure SpanSource where
  /-- Fixed text.  Blank text counts as none, and then the scope of the span gives the text. -/
  value : Option String
  /-- The format of a text that comes from the scope. -/
  format : String
  subscript : Option Bool
  superscript : Option Bool
  /-- The id of the expression that the span refers to. -/
  reference : Option String
deriving DecidableEq

/-- How a table cell is laid out. -/
structure CellSettings where
  /-- Whether the cell is merged with an equal one above it. -/
  autoRowSpan : Bool
  /-- The neighbour into which the cell is folded when it is empty. -/
  merge : CellMerge
  rowSpan : Option UInt32
  colSpan : Option UInt32
deriving DecidableEq

/-- The kinds of template nodes with what is theirs alone, over nodes `ν`. -/
inductive Kind (ν : Type) where
  /-- The root: contents between an optional header and an optional footer. -/
  | document (header : Option ν) (contents : List ν) (footer : Option ν)
  /-- A paragraph, possibly with its first line indented. -/
  | paragraph (indent : Bool) (spans : List ν)
  /-- A run of text, or a group of spans if it has any. -/
  | span (spans : List ν) (source : SpanSource)
  /-- A section with an optional title. -/
  | sect (level : Option Int32) (title : Option ν) (contents : List ν) (model : Option ListModel)
  /-- A table of header rows and body rows. -/
  | table (headers rows : List ν)
  | tableRow (cells : List ν)
  | tableCell (element : Option ν) (settings : CellSettings)
  /-- A list with its entries. -/
  | list (elements : List ν) (model : ListModel)
  /-- An image from a fixed path, or from the one in its scope. -/
  | image (path : Option String)
  | line (line : Line)
  /-- Contents that are shown only where the path `condition` leads to `true`. -/
  | conditional (contents : List ν) (condition : Option String)
  /-- Elements one after the other. -/
  | multiElement (elements : List ν)
  /-- Paragraphs one after the other. -/
  | multiParagraph (paragraphs : List ν)
  /-- Elements side by side. -/
  | singleRow (elements : List ν) (widths : Option (List Binary64))
  | pageBreak
  /-- A table of contents. -/
  | catalog (title : Option ν)
  /-- A numbered expression, which spans may refer to by its id. -/
  | expression (id : Option String) (element : Option ν)

end Template

/-- A template. -/
inductive Template where
  | node (head : Template.Head) (kind : Template.Kind Template)

namespace Template

namespace Kind

variable {α β : Type}

/-- The kind without its data. -/
def nodeKind : Kind α → NodeKind
  | document .. => .document
  | paragraph .. => .paragraph
  | span .. => .span
  | sect .. => .sect
  | table .. => .table
  | tableRow .. => .tableRow
  | tableCell .. => .tableCell
  | list .. => .list
  | image .. => .image
  | line .. => .line
  | conditional .. => .conditional
  | multiElement .. => .multiElement
  | multiParagraph .. => .multiParagraph
  | singleRow .. => .singleRow
  | pageBreak => .pageBreak
  | catalog .. => .catalog
  | expression .. => .expression

/-- The layer with every node replaced. -/
def map (f : α → β) : Kind α → Kind β
  | document header contents footer => document (header.map f) (contents.map f) (footer.map f)
  | paragraph indent spans => paragraph indent (spans.map f)
  | span spans source => span (spans.map f) source
  | sect level title contents model => sect level (title.map f) (contents.map f) model
  | table headers rows => table (headers.map f) (rows.map f)
  | tableRow cells => tableRow (cells.map f)
  | tableCell element settings => tableCell (element.map f) settings
  | list elements model => list (elements.map f) model
  | image path => image path
  | line l => line l
  | conditional contents condition => conditional (contents.map f) condition
  | multiElement elements => multiElement (elements.map f)
  | multiParagraph paragraphs => multiParagraph (paragraphs.map f)
  | singleRow elements widths => singleRow (elements.map f) widths
  | pageBreak => pageBreak
  | catalog title => catalog (title.map f)
  | expression id element => expression id (element.map f)

@[simp] theorem map_map {γ : Type} (g : β → γ) (f : α → β) (kind : Kind α) :
    (kind.map f).map g = kind.map (g ∘ f) := by
  cases kind <;> simp [map]

@[simp] theorem map_id (kind : Kind α) : kind.map id = kind := by
  cases kind <;> simp [map]

/-- Nodes that are paired with something are still there. -/
theorem map_fst_pair (f : α → β) (kind : Kind α) :
    (kind.map fun node => (node, f node)).map Prod.fst = kind := by
  rw [map_map]
  exact kind.map_id

@[simp] theorem nodeKind_map (f : α → β) (kind : Kind α) :
    (kind.map f).nodeKind = kind.nodeKind := by
  cases kind <;> rfl

end Kind

/-! ## Recursion -/

section Para

variable {α : Type} (f : Head → Kind (Template × α) → α)

mutual

/-- The result of a function on layers for a whole template, from the leaves up. -/
def para : Template → α
  | node head kind => f head (paraKind kind)

/-- The nodes of a layer with their results. -/
def paraKind : Kind Template → Kind (Template × α)
  | .document header contents footer =>
    .document (paraOption header) (paraList contents) (paraOption footer)
  | .paragraph indent spans => .paragraph indent (paraList spans)
  | .span spans source => .span (paraList spans) source
  | .sect level title contents model => .sect level (paraOption title) (paraList contents) model
  | .table headers rows => .table (paraList headers) (paraList rows)
  | .tableRow cells => .tableRow (paraList cells)
  | .tableCell element settings => .tableCell (paraOption element) settings
  | .list elements model => .list (paraList elements) model
  | .image path => .image path
  | .line line => .line line
  | .conditional contents condition => .conditional (paraList contents) condition
  | .multiElement elements => .multiElement (paraList elements)
  | .multiParagraph paragraphs => .multiParagraph (paraList paragraphs)
  | .singleRow elements widths => .singleRow (paraList elements) widths
  | .pageBreak => .pageBreak
  | .catalog title => .catalog (paraOption title)
  | .expression id element => .expression id (paraOption element)

/-- The nodes of a list with their results. -/
def paraList : List Template → List (Template × α)
  | [] => []
  | template :: templates => (template, para template) :: paraList templates

/-- An optional node with its result. -/
def paraOption : Option Template → Option (Template × α)
  | none => none
  | some template => some (template, para template)

end

theorem paraList_eq (templates : List Template) :
    paraList f templates = templates.map fun template => (template, para f template) := by
  induction templates with
  | nil => rfl
  | cons template templates ih => rw [paraList, ih, List.map_cons]

theorem paraOption_eq (template : Option Template) :
    paraOption f template = template.map fun template => (template, para f template) := by
  cases template <;> rfl

theorem para_node (head : Head) (kind : Kind Template) :
    para f (node head kind) = f head (kind.map fun template => (template, para f template)) := by
  rw [para]
  cases kind <;> simp only [paraKind, Kind.map, paraList_eq, paraOption_eq]

end Para

/-- The result of a function on layers that only looks at the results for the nodes. -/
def fold {α : Type} (f : Head → Kind α → α) : Template → α :=
  para fun head kind => f head (kind.map Prod.snd)

end Template

end Bindery
