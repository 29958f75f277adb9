import Bindery.ListModel
import Bindery.Node.Kind
import Bindery.Node.Line
import Bindery.Style.List

/-!
# Documents

A document is what a template and a model are bound to: the tree that a renderer draws, with every
path resolved, every array expanded and every table laid out.  `Doc.Kind ν` is one layer of it, over
nodes `ν`, and a document is a tree of such layers.

Functions on documents are given on one layer and lifted to trees by `Doc.para`.
-/

namespace Bindery

namespace Doc

/-- What every document node has. -/
structure Head where
  /-- The styles that were given explicitly. -/
  styles : List Style
  flags : Flags
deriving DecidableEq

/-- The text of a span, and how it is set. -/
structure SpanText where
  value : Option String
  subscript : Option Bool
  superscript : Option Bool
  /-- The id of the expression that the span refers to. -/
  reference : Option String
  /-- The number of that expression. -/
  referenceIndex : Option UInt32
deriving DecidableEq

/-- The kinds of document nodes with what is theirs alone, over nodes `ν`. -/
inductive Kind (ν : Type) where
  | document (header : Option ν) (contents : List ν) (footer : Option ν)
  | paragraph (indent : Bool) (spans : List ν)
  /-- A run of text, or a group of runs if it has any spans. -/
  | span (spans : List ν) (text : SpanText)
  /-- A section.  The anchor is what entries of a catalog point to. -/
  | sect (level : Option Int32) (anchor : Option String) (title : Option ν) (contents : List ν)
      (model : Option ListModel)
  | table (headers rows : List ν)
  | tableRow (cells : List ν)
  /-- A place of the grid of a table.  A span of zero says that a neighbour covers the place, no
  span is a span of one. -/
  | tableCell (element : Option ν) (rowSpan colSpan : Option UInt32)
  | list (elements : List ν) (model : ListModel)
  | image (source : Option String)
  | line (line : Line)
  | conditional (contents : List ν) (condition : Option String)
  | multiElement (elements : List ν)
  | multiParagraph (paragraphs : List ν)
  | singleRow (elements : List ν) (widths : Option (List Binary64))
  | pageBreak
  /-- A table of contents, with a section without contents for each entry. -/
  | catalog (title : Option ν) (sections : List ν)
  /-- A numbered expression.  The number is zero before numbering. -/
  | expression (id : Option String) (element : Option ν) (index : UInt32)

end Doc

/-- A document. -/
inductive Doc where
  | node (head : Doc.Head) (kind : Doc.Kind Doc)

namespace Doc

namespace Kind

variable {α β : Type}

/-- The kind without its data. -/
def nodeKind : Kind α → NodeKind
  | document .. => .document
  | paragraph .. => .paragraph
  | span .. => .span
  | sect .. => .sect
  | table .. => .table
  | tableRow .. => .tableRow
  | tableCell .. => .tableCell
  | list .. => .list
  | image .. => .image
  | line .. => .line
  | conditional .. => .conditional
  | multiElement .. => .multiElement
  | multiParagraph .. => .multiParagraph
  | singleRow .. => .singleRow
  | pageBreak => .pageBreak
  | catalog .. => .catalog
  | expression .. => .expression

/-- The layer with every node replaced, those of a catalog included. -/
def map (f : α → β) : Kind α → Kind β
  | document header contents footer => document (header.map f) (contents.map f) (footer.map f)
  | paragraph indent spans => paragraph indent (spans.map f)
  | span spans text => span (spans.map f) text
  | sect level anchor title contents model =>
    sect level anchor (title.map f) (contents.map f) model
  | table headers rows => table (headers.map f) (rows.map f)
  | tableRow cells => tableRow (cells.map f)
  | tableCell element rowSpan colSpan => tableCell (element.map f) rowSpan colSpan
  | list elements model => list (elements.map f) model
  | image source => image source
  | line l => line l
  | conditional contents condition => conditional (contents.map f) condition
  | multiElement elements => multiElement (elements.map f)
  | multiParagraph paragraphs => multiParagraph (paragraphs.map f)
  | singleRow elements widths => singleRow (elements.map f) widths
  | pageBreak => pageBreak
  | catalog title sections => catalog (title.map f) (sections.map f)
  | expression id element index => expression id (element.map f) index

/-- The nodes of a layer in document order.  The entries of a catalog are not part of the document
itself and do not count. -/
def children : Kind α → List α
  | document header contents footer => header.toList ++ contents ++ footer.toList
  | paragraph _ spans => spans
  | span spans _ => spans
  | sect _ _ title contents _ => title.toList ++ contents
  | table headers rows => headers ++ rows
  | tableRow cells => cells
  | tableCell element _ _ => element.toList
  | list elements _ => elements
  | image _ => []
  | line _ => []
  | conditional contents _ => contents
  | multiElement elements => elements
  | multiParagraph paragraphs => paragraphs
  | singleRow elements _ => elements
  | pageBreak => []
  | catalog title _ => title.toList
  | expression _ element _ => element.toList

@[simp] theorem map_map {γ : Type} (g : β → γ) (f : α → β) (kind : Kind α) :
    (kind.map f).map g = kind.map (g ∘ f) := by
  cases kind <;> simp [map]

@[simp] theorem map_id (kind : Kind α) : kind.map id = kind := by
  cases kind <;> simp [map]

/-- Nodes that are paired with something are still there. -/
theorem map_fst_pair (f : α → β) (kind : Kind α) :
    (kind.map fun node => (node, f node)).map Prod.fst = kind := by
  rw [map_map]
  exact kind.map_id

@[simp] theorem nodeKind_map (f : α → β) (kind : Kind α) :
    (kind.map f).nodeKind = kind.nodeKind := by
  cases kind <;> rfl

@[simp] theorem children_map (f : α → β) (kind : Kind α) :
    (kind.map f).children = kind.children.map f := by
  have toList_map (node : Option α) : (node.map f).toList = node.toList.map f := by
    cases node <;> rfl
  cases kind <;> simp [map, children, toList_map]

/-- The size of text that has no other. -/
def defaultFontSize : Binary64 := .ofInt 12

/-- The styles that a node of a kind has unless others are given. -/
def defaultStyles : NodeKind → List Style
  | .span => [.fontFamily "Helvetica", .fontSize defaultFontSize, .fontColor Style.black]
  | .image => [.imageScaling .fitWidth, .imageCompression .best]
  | _ => []

end Kind

/-- The styles of a node: the explicit ones, completed by the defaults of its kind. -/
def effectiveStyles (styles : List Style) (kind : NodeKind) : List Style :=
  Style.merge styles (Kind.defaultStyles kind)

/-- What every node has. -/
def head : Doc → Head
  | node head _ => head

/-- What the node has of its own. -/
def kind : Doc → Kind Doc
  | node _ kind => kind

/-- The kind of the node. -/
def nodeKind (doc : Doc) : NodeKind :=
  doc.kind.nodeKind

/-- Whether the node counts as absent. -/
def isDeleted (doc : Doc) : Bool :=
  doc.head.flags.isDeleted

/-- The styles of the node, completed by defaults. -/
def styles (doc : Doc) : List Style :=
  effectiveStyles doc.head.styles doc.nodeKind

/-- A node of which nothing is said but what its kind has. -/
def ofKind (kind : Kind Doc) : Doc :=
  node ⟨[], .unset⟩ kind

/-! ## Recursion -/

section Para

variable {α : Type} (f : Head → Kind (Doc × α) → α)

mutual

/-- The result of a function on layers for a whole document, from the leaves up. -/
def para : Doc → α
  | node head kind => f head (paraKind kind)

/-- The nodes of a layer with their results. -/
def paraKind : Kind Doc → Kind (Doc × α)
  | .document header contents footer =>
    .document (paraOption header) (paraList contents) (paraOption footer)
  | .paragraph indent spans => .paragraph indent (paraList spans)
  | .span spans text => .span (paraList spans) text
  | .sect level anchor title contents model =>
    .sect level anchor (paraOption title) (paraList contents) model
  | .table headers rows => .table (paraList headers) (paraList rows)
  | .tableRow cells => .tableRow (paraList cells)
  | .tableCell element rowSpan colSpan => .tableCell (paraOption element) rowSpan colSpan
  | .list elements model => .list (paraList elements) model
  | .image source => .image source
  | .line line => .line line
  | .conditional contents condition => .conditional (paraList contents) condition
  | .multiElement elements => .multiElement (paraList elements)
  | .multiParagraph paragraphs => .multiParagraph (paraList paragraphs)
  | .singleRow elements widths => .singleRow (paraList elements) widths
  | .pageBreak => .pageBreak
  | .catalog title sections => .catalog (paraOption title) (paraList sections)
  | .expression id element index => .expression id (paraOption element) index

/-- The nodes of a list with their results. -/
def paraList : List Doc → List (Doc × α)
  | [] => []
  | doc :: docs => (doc, para doc) :: paraList docs

/-- An optional node with its result. -/
def paraOption : Option Doc → Option (Doc × α)
  | none => none
  | some doc => some (doc, para doc)

end

theorem paraList_eq (docs : List Doc) :
    paraList f docs = docs.map fun doc => (doc, para f doc) := by
  induction docs with
  | nil => rfl
  | cons doc docs ih => rw [paraList, ih, List.map_cons]

theorem paraOption_eq (doc : Option Doc) :
    paraOption f doc = doc.map fun doc => (doc, para f doc) := by
  cases doc <;> rfl

theorem para_node (head : Head) (kind : Kind Doc) :
    para f (node head kind) = f head (kind.map fun doc => (doc, para f doc)) := by
  rw [para]
  cases kind <;> simp only [paraKind, Kind.map, paraList_eq, paraOption_eq]

end Para

/-- The result of a function on layers that only looks at the results for the nodes. -/
def fold {α : Type} (f : Head → Kind α → α) : Doc → α :=
  para fun head kind => f head (kind.map Prod.snd)

end Doc

end Bindery
