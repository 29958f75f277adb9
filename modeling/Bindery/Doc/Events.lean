import Bindery.Doc.Basic
import Bindery.Markup.Script

/-!
# Drawing a document

A document is drawn by telling a surface, in document order, which blocks are entered and left and
which texts, images, lines and page breaks stand in them (`Event`).  Every event that can be styled
comes with the styles that apply to it, completed by defaults, so that a surface needs to know no
default.

Some nodes are not drawn: deleted ones, sections without contents, and cells of a table whose place
is covered by a neighbour.

A span may hold further spans.  A text inside is set in the scripts of all the spans around it, and
a span without styles of its own takes those of the span around it.  `Inherited` is what a span
hands on in this way.

A catalog holds for each of its entries a section without contents, of which only the title is
drawn.  So a node can be drawn in two roles, as itself and as an entry, and `Drawing` has the events
of both.

* `Doc.events`: the events of a document.
-/

namespace Bindery

namespace Doc

/-- What is entered and left, with what a surface needs to know of it. -/
inductive Block where
  | document
  | header
  | footer
  | paragraph (indent : Bool)
  | sect (level : Option Int32) (anchor : Option String)
  | table
  | tableHeader
  | row
  | cell (rowSpan colSpan : UInt32)
  | list (model : ListModel)
  /-- An entry of a list, counted from one among the entries that are drawn. -/
  | item (model : ListModel) (ordinal : Nat)
  | conditional
  | group
  | singleRow (widths : Option (List Binary64))
  | catalog
  | catalogEntry (level : Option Int32) (anchor : Option String)
  | expression (index : UInt32)
deriving DecidableEq

/-- A text as it is drawn. -/
structure TextRun where
  text : String
  script : Script
  /-- The number of the expression that the text refers to. -/
  referenceIndex : Option UInt32
deriving DecidableEq

/-- What a surface is told. -/
inductive Event where
  | enter (block : Block) (styles : List Style)
  | leave (block : Block)
  | text (run : TextRun) (styles : List Style)
  | image (source : Option String) (styles : List Style)
  | line (line : Line) (styles : List Style)
  | pageBreak
deriving DecidableEq

/-- Events inside a block. -/
def within (block : Block) (styles : List Style) (events : List Event) : List Event :=
  .enter block styles :: events ++ [.leave block]

/-- What a span hands on to the spans in it. -/
structure Inherited where
  script : Script
  styles : List Style
deriving DecidableEq

/-- The events of a node in each of its roles. -/
structure Drawing where
  /-- As itself, inside the span that hands something on, if there is one. -/
  events : Option Inherited → List Event
  /-- As an entry of a catalog. -/
  entry : List Event

namespace Drawing

/-- The events of a node that is not inside a span. -/
def whole (drawing : Drawing) : List Event :=
  drawing.events none

/-- The events of an optional node. -/
def optional : Option Drawing → List Event
  | none => []
  | some drawing => drawing.whole

/-- The events of nodes one after the other. -/
def all (drawings : List Drawing) : List Event :=
  drawings.flatMap whole

/-- The events of an optional node inside a block, which is there only if the node is. -/
def optionalWithin (block : Block) : Option Drawing → List Event
  | none => []
  | some drawing => within block [] drawing.whole

end Drawing

/-- The script of a text in a span. -/
def SpanText.script (text : SpanText) : Script :=
  ⟨text.subscript.getD false, text.superscript.getD false⟩

/-- The text of a span without spans. -/
def SpanText.run (text : SpanText) (script : Script) : TextRun :=
  ⟨text.value.getD "", script, text.referenceIndex⟩

/-- What a span hands on: the scripts of all spans down to it, and its own styles unless it has none
and a span around it has handed on some. -/
def Inherited.ofSpan (styles : List Style) (text : SpanText) : Option Inherited → Inherited
  | none => ⟨text.script, effectiveStyles styles .span⟩
  | some outer =>
    { script := outer.script.union text.script
      styles := if styles.isEmpty then outer.styles else effectiveStyles styles .span }

/-- The entries of a list, of which those that are deleted do not count. -/
def itemEvents (model : ListModel) (elements : List (Doc × Drawing)) : List Event :=
  let live := elements.filter fun (element, _) => !element.isDeleted
  live.zipIdx.flatMap fun ((_, drawing), i) => within (.item model (i + 1)) [] drawing.whole

/-- The header rows of a table. -/
def headerEvents (headers : List Drawing) : List Event :=
  if headers.isEmpty then [] else within .tableHeader [] (Drawing.all headers)

/-- A cell, unless its place is covered by a neighbour. -/
def cellEvents (styles : List Style) (rowSpan colSpan : UInt32) (contents : List Event) :
    List Event :=
  if rowSpan = 0 ∨ colSpan = 0 then [] else within (.cell rowSpan colSpan) styles contents

/-- The events of a layer that is not deleted. -/
def layerEvents (head : Head) (kind : Kind (Doc × Drawing)) (inherited : Option Inherited) :
    List Event :=
  let styles := effectiveStyles head.styles kind.nodeKind
  let all := fun nodes : List (Doc × Drawing) => Drawing.all (nodes.map Prod.snd)
  let optional := fun node : Option (Doc × Drawing) => Drawing.optional (node.map Prod.snd)
  match kind with
  | .document header contents footer =>
    within .document styles (Drawing.optionalWithin .header (header.map Prod.snd) ++ all contents ++
      Drawing.optionalWithin .footer (footer.map Prod.snd))
  | .paragraph indent spans => within (.paragraph indent) styles (all spans)
  | .span spans text =>
    let own := Inherited.ofSpan head.styles text inherited
    if spans.isEmpty then [.text (text.run own.script) own.styles]
    else spans.flatMap fun (_, drawing) => drawing.events (some own)
  | .sect level anchor title contents _ =>
    if contents.isEmpty then []
    else within (.sect level anchor) styles (optional title ++ all contents)
  | .table headers rows =>
    within .table styles (headerEvents (headers.map Prod.snd) ++ all rows)
  | .tableRow cells => within .row styles (all cells)
  | .tableCell element rowSpan colSpan =>
    cellEvents styles (rowSpan.getD 1) (colSpan.getD 1) (optional element)
  | .list elements model => within (.list model) styles (itemEvents model elements)
  | .image source => [.image source styles]
  | .line line => [.line line styles]
  | .conditional contents _ => within .conditional styles (all contents)
  | .multiElement elements => within .group styles (all elements)
  | .multiParagraph paragraphs => within .group styles (all paragraphs)
  | .singleRow elements widths => within (.singleRow widths) styles (all elements)
  | .pageBreak => [.pageBreak]
  | .catalog title sections =>
    within .catalog styles (optional title ++ sections.flatMap fun (_, drawing) => drawing.entry)
  | .expression _ element index => within (.expression index) styles (optional element)

/-- The events of a layer as an entry of a catalog: the title, if it is a section with one. -/
def layerEntry : Kind (Doc × Drawing) → List Event
  | .sect level anchor (some (_, title)) _ _ => within (.catalogEntry level anchor) [] title.whole
  | _ => []

/-- A layer in each of its roles.  An entry is drawn even if the section is deleted. -/
def layerDrawing (head : Head) (kind : Kind (Doc × Drawing)) : Drawing where
  events inherited := if head.flags.isDeleted then [] else layerEvents head kind inherited
  entry := layerEntry kind

/-- A document in each of its roles. -/
def drawing : Doc → Drawing :=
  para layerDrawing

theorem drawing_node (head : Head) (kind : Kind Doc) :
    drawing (node head kind) = layerDrawing head (kind.map fun doc => (doc, drawing doc)) :=
  para_node layerDrawing head kind

/-- What a surface is told to draw a document. -/
def events (doc : Doc) : List Event :=
  doc.drawing.whole

end Doc

end Bindery
