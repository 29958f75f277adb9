import Bindery.Enumeration
import Bindery.Registry
import Bindery.Style.Basic

/-!
# Kinds of nodes

Templates and documents are trees of the same seventeen kinds of nodes.  A kind has a type name in
each family, and one tag in both.
-/

namespace Bindery

/-- The kinds of nodes. -/
inductive NodeKind where
  | document
  | paragraph
  | span
  | sect
  | table
  | tableRow
  | tableCell
  | list
  | image
  | line
  | conditional
  | multiElement
  | multiParagraph
  | singleRow
  | pageBreak
  | catalog
  | expression
deriving DecidableEq, Repr

namespace NodeKind

/-- The type name of a kind in the family of templates. -/
def templateName : NodeKind → String
  | document => "Document"
  | paragraph => "Paragraph"
  | span => "Span"
  | sect => "Section"
  | table => "Table"
  | tableRow => "TableRow"
  | tableCell => "TableCell"
  | list => "List"
  | image => "Image"
  | line => "Line"
  | conditional => "Show"
  | multiElement => "MultiElement"
  | multiParagraph => "MultiParagraph"
  | singleRow => "SingleRow"
  | pageBreak => "PageBreak"
  | catalog => "Catalog"
  | expression => "Expression"

/-- The type name of a kind in the family of documents. -/
def documentName (kind : NodeKind) : String :=
  "Doc" ++ kind.templateName

instance : Enumeration NodeKind where
  values := [document, paragraph, span, sect, table, tableRow, tableCell, list, image, line,
    conditional, multiElement, multiParagraph, singleRow, pageBreak, catalog, expression]
  name := templateName
  find_name value := by cases value <;> decide

end NodeKind

/-- What may be done with a node, and whether it is there at all; each is left open unless said. -/
structure Flags where
  editable : Option Bool
  deletable : Option Bool
  deleted : Option Bool
deriving DecidableEq, Repr

namespace Flags

/-- Nothing is said. -/
def unset : Flags := ⟨none, none, none⟩

/-- Whether the node counts as absent. -/
def isDeleted (flags : Flags) : Bool :=
  flags.deleted.getD false

end Flags

namespace Registry

/-- The kinds of template nodes. -/
def templates : Registry NodeKind :=
  ofTypes .template (Enumeration.values.map fun kind : NodeKind => (kind.templateName, kind))

/-- The kinds of document nodes. -/
def documents : Registry NodeKind :=
  ofTypes .document (Enumeration.values.map fun kind : NodeKind => (kind.documentName, kind))

/-- The kinds of styles. -/
def styles : Registry StyleKind :=
  ofTypes .style (Enumeration.values.map fun kind : StyleKind => (kind.typeName, kind))

end Registry

end Bindery
