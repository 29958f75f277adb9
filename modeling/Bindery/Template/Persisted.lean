import Bindery.Json.Printer
import Bindery.Node.Parts
import Bindery.Template.Basic

/-!
# Persisted templates

The schema of each kind of template node, and the two directions between templates and JSON that
follow from it.  A template is written with its styles reduced to one of each kind.

* `Template.toJson`: a template as it is written.
* `Template.ofJson`: the template that a value is, if it is recognised as one.
* `Template.load`: a template after reading an object over its root.
* `Template.agree`: equality of templates.
-/

namespace Bindery

namespace Template

/-- The attributes of every template node. -/
@[reducible] def sharedSchema : Schema :=
  [("access", .scalar .text), ("editable", .scalar (.optional .flag)),
   ("deletable", .scalar (.optional .flag)), ("deleted", .scalar (.optional .flag))]

/-- The attributes of each kind of template node. -/
@[reducible] def ownSchema : NodeKind → Schema
  | .document => [("header", .node), ("contents", .nodes), ("footer", .node)]
  | .paragraph => [("indent", .scalar .flag), ("spans", .nodes)]
  | .span =>
    [("spans", .nodes), ("value", .scalar (.optional .text)), ("format", .scalar .text),
     ("subscript", .scalar (.optional .flag)), ("superscript", .scalar (.optional .flag)),
     ("exp", .scalar (.optional .text))]
  | .sect =>
    [("level", .scalar (.optional .level)), ("title", .node), ("contents", .nodes),
     ("listmodel", .scalar (.optional .listModel))]
  | .table => [("headers", .nodes), ("rows", .nodes)]
  | .tableRow => [("cells", .nodes)]
  | .tableCell =>
    [("element", .node), ("autorowspan", .scalar .flag), ("autocellmerge", .scalar .cellMerge),
     ("rowspan", .scalar (.optional .count)), ("colspan", .scalar (.optional .count))]
  | .list => [("elements", .nodes), ("listmodel", .scalar .listModel)]
  | .image => [("path", .scalar (.optional .text))]
  | .line =>
    [("linetype", .scalar .lineType), ("value", .scalar .number),
     ("color", .scalar (.optional .text))]
  | .conditional => [("contents", .nodes), ("condition", .scalar (.optional .text))]
  | .multiElement => [("elements", .nodes)]
  | .multiParagraph => [("paragraphs", .nodes)]
  | .singleRow => [("elements", .nodes), ("widths", .scalar (.optional (.sequence .number)))]
  | .pageBreak => []
  | .catalog => [("title", .node)]
  | .expression => [("id", .scalar (.optional .text)), ("element", .node)]

/-- The own attributes of a template node of which nothing is said. -/
def initialOwn (ν : Type) : (kind : NodeKind) → Record ν (ownSchema kind)
  | .document => (none, [], none, ())
  | .paragraph => (false, [], ())
  | .span => ([], none, SpanFormat.plain, none, none, none, ())
  | .sect => (none, none, [], none, ())
  | .table => ([], [], ())
  | .tableRow => ([], ())
  | .tableCell => (none, false, .none, none, none, ())
  | .list => ([], .none, ())
  | .image => (none, ())
  | .line => (.horizontal, .zero false, none, ())
  | .conditional => ([], none, ())
  | .multiElement => ([], ())
  | .multiParagraph => ([], ())
  | .singleRow => ([], none, ())
  | .pageBreak => ()
  | .catalog => (none, ())
  | .expression => (none, none, ())

/-- Templates as a family of trees. -/
@[reducible] def family : NodeFamily where
  family := .template
  registry := Registry.templates
  typeName := NodeKind.templateName
  shared := sharedSchema
  own := ownSchema
  initialShared _ := (AccessPath.current, none, none, none, ())
  initialOwn := initialOwn
  writtenStyles _ styles := Style.dedup styles

section Layers

variable {ν : Type}

/-- The own attributes of a layer. -/
def ownRecord : (kind : Kind ν) → Record ν (ownSchema kind.nodeKind)
  | .document header contents footer => (header, contents, footer, ())
  | .paragraph indent spans => (indent, spans, ())
  | .span spans source =>
    (spans, source.value, source.format, source.subscript, source.superscript, source.reference, ())
  | .sect level title contents model => (level, title, contents, model, ())
  | .table headers rows => (headers, rows, ())
  | .tableRow cells => (cells, ())
  | .tableCell element settings =>
    (element, settings.autoRowSpan, settings.merge, settings.rowSpan, settings.colSpan, ())
  | .list elements model => (elements, model, ())
  | .image path => (path, ())
  | .line line => (line.lineType, line.value, line.color, ())
  | .conditional contents condition => (contents, condition, ())
  | .multiElement elements => (elements, ())
  | .multiParagraph paragraphs => (paragraphs, ())
  | .singleRow elements widths => (elements, widths, ())
  | .pageBreak => ()
  | .catalog title => (title, ())
  | .expression id element => (id, element, ())

/-- The layer of a kind with these own attributes. -/
def kindOf : (kind : NodeKind) → Record ν (ownSchema kind) → Kind ν
  | .document, (header, contents, footer, ()) => .document header contents footer
  | .paragraph, (indent, spans, ()) => .paragraph indent spans
  | .span, (spans, value, format, subscript, superscript, reference, ()) =>
    .span spans ⟨value, format, subscript, superscript, reference⟩
  | .sect, (level, title, contents, model, ()) => .sect level title contents model
  | .table, (headers, rows, ()) => .table headers rows
  | .tableRow, (cells, ()) => .tableRow cells
  | .tableCell, (element, autoRowSpan, merge, rowSpan, colSpan, ()) =>
    .tableCell element ⟨autoRowSpan, merge, rowSpan, colSpan⟩
  | .list, (elements, model, ()) => .list elements model
  | .image, (path, ()) => .image path
  | .line, (lineType, value, color, ()) => .line ⟨lineType, value, color⟩
  | .conditional, (contents, condition, ()) => .conditional contents condition
  | .multiElement, (elements, ()) => .multiElement elements
  | .multiParagraph, (paragraphs, ()) => .multiParagraph paragraphs
  | .singleRow, (elements, widths, ()) => .singleRow elements widths
  | .pageBreak, () => .pageBreak
  | .catalog, (title, ()) => .catalog title
  | .expression, (id, element, ()) => .expression id element

@[simp] theorem kindOf_ownRecord (kind : Kind ν) :
    kindOf kind.nodeKind (ownRecord kind) = kind := by
  cases kind <;> rfl

@[simp] theorem nodeKind_kindOf (kind : NodeKind) (own : Record ν (ownSchema kind)) :
    (kindOf kind own).nodeKind = kind := by
  cases kind <;> rfl

/-- The parts of a layer. -/
def parts (head : Head) (kind : Kind ν) : Parts family ν where
  kind := kind.nodeKind
  styles := head.styles
  shared := (head.access, head.flags.editable, head.flags.deletable, head.flags.deleted, ())
  own := ownRecord kind

/-- The head of a node with these parts. -/
def headOf (parts : Parts family ν) : Head :=
  let (access, editable, deletable, deleted, ()) := parts.shared
  ⟨access, parts.styles, editable, deletable, deleted⟩

end Layers

/-- The template with these parts. -/
def ofParts (parts : Parts family Template) : Template :=
  node (headOf parts) (kindOf parts.kind parts.own)

@[simp] theorem ofParts_parts (head : Head) (kind : Kind Template) :
    ofParts (parts head kind) = node head kind := by
  simp [ofParts, parts, headOf]

/-- A template as it is written. -/
def toJson : Template → Json :=
  fold fun head kind => family.encode (parts head kind)

/-- What an object is as a template. -/
def read (entries : Entries (Reading Template)) : Except Fault (Option Template) :=
  Option.map ofParts <$> family.read entries

/-- The template that a value is, or none if it is not recognised as one. -/
def ofJson (value : Json) : Except Fault (Option Template) :=
  (Reading.of read value).node

/-- The template that a value is.  It has to be recognised as one. -/
def ofRoot (value : Json) : Except Fault Template :=
  requireRoot value (ofJson value)

/-- The template that a text holds. -/
def ofText (text : String) : Except Fault Template :=
  readText text >>= ofRoot

/-- The text of a template. -/
def toText (template : Template) : String :=
  template.toJson.pretty

/-- A template after reading an object over its root. -/
def load (template : Template) (entries : Entries Json) : Except Fault Template :=
  match template with
  | node head kind => ofParts <$> family.load (parts head kind) (Reading.ofEntries read entries)

/-- Equality of templates: the same attributes, numbers being compared as numbers, and the same
styles in the same order. -/
def agree : Template → Template → Bool :=
  fold fun head kind other => match other with
    | node head' kind' =>
      family.agree (fun a b => Style.agreeLists a.styles b.styles) (fun same child => same child)
        (parts head kind) (parts head' kind')

end Template

end Bindery
