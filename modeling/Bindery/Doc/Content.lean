import Bindery.Doc.Basic

/-!
# The text of a document node
-/

namespace Bindery

namespace Doc

/-- Whether a layer has no content, given whether its nodes have none.  A span that refers to an
expression has content even without a text, and most kinds of nodes always count as content. -/
def layerIsEmpty : Kind Bool → Bool
  | .span spans text =>
    if spans.isEmpty then text.value.getD "" == "" && text.reference.isNone
    else spans.all id
  | .paragraph _ spans => spans.all id
  | .multiElement elements => elements.isEmpty
  | .multiParagraph paragraphs => paragraphs.all id
  | _ => false

/-- Whether the node has no content to draw. -/
def isEmpty : Doc → Bool :=
  fold fun _ kind => layerIsEmpty kind

/-- The text of a layer, given the texts of its nodes. -/
def layerText : Kind String → String
  | .span spans text => if spans.isEmpty then text.value.getD "" else String.join spans
  | .paragraph _ spans => String.join spans
  | _ => ""

/-- The text of a span or a paragraph. -/
def fullText : Doc → String :=
  fold fun _ kind => layerText kind

theorem fullText_node (head : Head) (kind : Kind Doc) :
    (node head kind).fullText = layerText (kind.map fullText) := by
  rw [fullText, fold, para_node, Kind.map_map]
  rfl

theorem fullText_span (head : Head) (spans : List Doc) (text : SpanText) :
    (node head (.span spans text)).fullText =
      if spans.isEmpty then text.value.getD "" else String.join (spans.map fullText) := by
  rw [fullText_node]
  simp only [Kind.map, layerText, List.isEmpty_map]

theorem fullText_paragraph (head : Head) (indent : Bool) (spans : List Doc) :
    (node head (.paragraph indent spans)).fullText = String.join (spans.map fullText) :=
  fullText_node _ _

/-- The nodes of a document in document order, each with its depth. -/
def outline (doc : Doc) : List (Nat × Doc) :=
  para
    (fun head kind depth =>
      (depth, node head (kind.map Prod.fst)) ::
        kind.children.flatMap fun (_, outlineFrom) => outlineFrom (depth + 1))
    doc 0

end Doc

end Bindery
