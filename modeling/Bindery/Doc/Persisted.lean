import Bindery.Doc.Basic
import Bindery.Json.Printer
import Bindery.Node.Parts

/-!
# Persisted documents

The schema of each kind of document node, and the two directions between documents and JSON that
follow from it.  A document is written with its styles completed by the defaults, so that what is
written says all there is to know for drawing it.

* `Doc.toJson`: a document as it is written.
* `Doc.ofJson`: the document that a value is, if it is recognised as one.
* `Doc.load`: a document after reading an object over its root.
* `Doc.agree`: equality of documents.
-/

namespace Bindery

namespace Doc

/-- The attributes of every document node. -/
@[reducible] def sharedSchema : Schema :=
  [("editable", .scalar (.optional .flag)), ("deletable", .scalar (.optional .flag)),
   ("deleted", .scalar (.optional .flag))]

/-- The attributes of each kind of document node. -/
@[reducible] def ownSchema : NodeKind → Schema
  | .document => [("header", .node), ("contents", .nodes), ("footer", .node)]
  | .paragraph => [("indent", .scalar .flag), ("spans", .nodes)]
  | .span =>
    [("spans", .nodes), ("value", .scalar (.optional .text)),
     ("subscript", .scalar (.optional .flag)), ("superscript", .scalar (.optional .flag)),
     ("exp", .scalar (.optional .text)), ("expindex", .scalar (.optional .count))]
  | .sect =>
    [("level", .scalar (.optional .level)), ("alias", .scalar (.optional .text)), ("title", .node),
     ("contents", .nodes), ("listmodel", .scalar (.optional .listModel))]
  | .table => [("headers", .nodes), ("rows", .nodes)]
  | .tableRow => [("cells", .nodes)]
  | .tableCell =>
    [("element", .node), ("rowspan", .scalar (.optional .count)),
     ("colspan", .scalar (.optional .count))]
  | .list => [("elements", .nodes), ("listmodel", .scalar .listModel)]
  | .image => [("source", .scalar (.optional .text))]
  | .line =>
    [("linetype", .scalar .lineType), ("value", .scalar .number),
     ("color", .scalar (.optional .text))]
  | .conditional => [("contents", .nodes), ("condition", .scalar (.optional .text))]
  | .multiElement => [("elements", .nodes)]
  | .multiParagraph => [("paragraphs", .nodes)]
  | .singleRow => [("elements", .nodes), ("widths", .scalar (.optional (.sequence .number)))]
  | .pageBreak => []
  | .catalog => [("title", .node), ("sections", .nodes)]
  | .expression =>
    [("id", .scalar (.optional .text)), ("element", .node), ("index", .scalar .count)]

/-- The own attributes of a document node of which nothing is said. -/
def initialOwn (ν : Type) : (kind : NodeKind) → Record ν (ownSchema kind)
  | .document => (none, [], none, ())
  | .paragraph => (false, [], ())
  | .span => ([], none, none, none, none, none, ())
  | .sect => (none, none, none, [], none, ())
  | .table => ([], [], ())
  | .tableRow => ([], ())
  | .tableCell => (none, none, none, ())
  | .list => ([], .none, ())
  | .image => (none, ())
  | .line => (.horizontal, .zero false, none, ())
  | .conditional => ([], none, ())
  | .multiElement => ([], ())
  | .multiParagraph => ([], ())
  | .singleRow => ([], none, ())
  | .pageBreak => ()
  | .catalog => (none, [], ())
  | .expression => (none, none, 0, ())

/-- Documents as a family of trees. -/
@[reducible] def family : NodeFamily where
  family := .document
  registry := Registry.documents
  typeName := NodeKind.documentName
  shared := sharedSchema
  own := ownSchema
  initialShared _ := (none, none, none, ())
  initialOwn := initialOwn
  writtenStyles kind styles := effectiveStyles styles kind

section Layers

variable {ν : Type}

/-- The own attributes of a layer. -/
def ownRecord : (kind : Kind ν) → Record ν (ownSchema kind.nodeKind)
  | .document header contents footer => (header, contents, footer, ())
  | .paragraph indent spans => (indent, spans, ())
  | .span spans text =>
    (spans, text.value, text.subscript, text.superscript, text.reference, text.referenceIndex, ())
  | .sect level anchor title contents model => (level, anchor, title, contents, model, ())
  | .table headers rows => (headers, rows, ())
  | .tableRow cells => (cells, ())
  | .tableCell element rowSpan colSpan => (element, rowSpan, colSpan, ())
  | .list elements model => (elements, model, ())
  | .image source => (source, ())
  | .line line => (line.lineType, line.value, line.color, ())
  | .conditional contents condition => (contents, condition, ())
  | .multiElement elements => (elements, ())
  | .multiParagraph paragraphs => (paragraphs, ())
  | .singleRow elements widths => (elements, widths, ())
  | .pageBreak => ()
  | .catalog title sections => (title, sections, ())
  | .expression id element index => (id, element, index, ())

/-- The layer of a kind with these own attributes. -/
def kindOf : (kind : NodeKind) → Record ν (ownSchema kind) → Kind ν
  | .document, (header, contents, footer, ()) => .document header contents footer
  | .paragraph, (indent, spans, ()) => .paragraph indent spans
  | .span, (spans, value, subscript, superscript, reference, referenceIndex, ()) =>
    .span spans ⟨value, subscript, superscript, reference, referenceIndex⟩
  | .sect, (level, anchor, title, contents, model, ()) => .sect level anchor title contents model
  | .table, (headers, rows, ()) => .table headers rows
  | .tableRow, (cells, ()) => .tableRow cells
  | .tableCell, (element, rowSpan, colSpan, ()) => .tableCell element rowSpan colSpan
  | .list, (elements, model, ()) => .list elements model
  | .image, (source, ()) => .image source
  | .line, (lineType, value, color, ()) => .line ⟨lineType, value, color⟩
  | .conditional, (contents, condition, ()) => .conditional contents condition
  | .multiElement, (elements, ()) => .multiElement elements
  | .multiParagraph, (paragraphs, ()) => .multiParagraph paragraphs
  | .singleRow, (elements, widths, ()) => .singleRow elements widths
  | .pageBreak, () => .pageBreak
  | .catalog, (title, sections, ()) => .catalog title sections
  | .expression, (id, element, index, ()) => .expression id element index

@[simp] theorem kindOf_ownRecord (kind : Kind ν) :
    kindOf kind.nodeKind (ownRecord kind) = kind := by
  cases kind <;> rfl

@[simp] theorem nodeKind_kindOf (kind : NodeKind) (own : Record ν (ownSchema kind)) :
    (kindOf kind own).nodeKind = kind := by
  cases kind <;> rfl

/-- The parts of a layer. -/
def parts (head : Head) (kind : Kind ν) : Parts family ν where
  kind := kind.nodeKind
  styles := head.styles
  shared := (head.flags.editable, head.flags.deletable, head.flags.deleted, ())
  own := ownRecord kind

/-- The head of a node with these parts. -/
def headOf (parts : Parts family ν) : Head :=
  let (editable, deletable, deleted, ()) := parts.shared
  ⟨parts.styles, editable, deletable, deleted⟩

end Layers

/-- The document with these parts. -/
def ofParts (parts : Parts family Doc) : Doc :=
  node (headOf parts) (kindOf parts.kind parts.own)

@[simp] theorem ofParts_parts (head : Head) (kind : Kind Doc) :
    ofParts (parts head kind) = node head kind := by
  simp [ofParts, parts, headOf]

/-- A document as it is written. -/
def toJson : Doc → Json :=
  fold fun head kind => family.encode (parts head kind)

/-- What an object is as a document. -/
def read (entries : Entries (Reading Doc)) : Except Fault (Option Doc) :=
  Option.map ofParts <$> family.read entries

/-- The document that a value is, or none if it is not recognised as one. -/
def ofJson (value : Json) : Except Fault (Option Doc) :=
  (Reading.of read value).node

/-- The document that a value is.  It has to be recognised as one. -/
def ofRoot (value : Json) : Except Fault Doc :=
  requireRoot value (ofJson value)

/-- The document that a text holds. -/
def ofText (text : String) : Except Fault Doc :=
  readText text >>= ofRoot

/-- The text of a document. -/
def toText (doc : Doc) : String :=
  doc.toJson.pretty

/-- A document after reading an object over its root. -/
def load (doc : Doc) (entries : Entries Json) : Except Fault Doc :=
  match doc with
  | node head kind => ofParts <$> family.load (parts head kind) (Reading.ofEntries read entries)

/-- Equality of documents: the same attributes, numbers being compared as numbers, and the same
styles once they are completed by the defaults. -/
def agree : Doc → Doc → Bool :=
  fold fun head kind other => match other with
    | node head' kind' =>
      family.agree
        (fun a b =>
          Style.sameSet (effectiveStyles a.styles a.kind) (effectiveStyles b.styles b.kind))
        (fun same child => same child) (parts head kind) (parts head' kind')

end Doc

end Bindery
