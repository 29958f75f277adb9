import Bindery.Doc.Basic

/-!
# Walking through a document

Numbers and anchors are given out in document order, once the document is complete.  `Doc.annotate`
is the walk that does so: it counts nodes of some sort and leaves a note on each node, which may
depend on the count so far.  A note changes one attribute of one node, and nothing on deleted nodes
or below them is counted or changed.

* `Doc.live`: the nodes that a walk meets.
* `Doc.annotate`: the walk.
-/

namespace Bindery

namespace Doc

namespace Kind

variable {α β : Type}

/-- The layer after an effect on each of its nodes in document order.  The entries of a catalog are
not part of the document and are only kept. -/
def traverse {m : Type → Type} [Monad m] (visit : α → m β) (keep : α → β) : Kind α → m (Kind β)
  | document header contents footer => do
    let header ← header.mapM visit
    let contents ← contents.mapM visit
    let footer ← footer.mapM visit
    return document header contents footer
  | paragraph indent spans => paragraph indent <$> spans.mapM visit
  | span spans text => (span · text) <$> spans.mapM visit
  | sect level anchor title contents model => do
    let title ← title.mapM visit
    let contents ← contents.mapM visit
    return sect level anchor title contents model
  | table headers rows => do
    let headers ← headers.mapM visit
    let rows ← rows.mapM visit
    return table headers rows
  | tableRow cells => tableRow <$> cells.mapM visit
  | tableCell element rowSpan colSpan => (tableCell · rowSpan colSpan) <$> element.mapM visit
  | list elements model => (list · model) <$> elements.mapM visit
  | image source => return image source
  | line l => return line l
  | conditional contents condition => (conditional · condition) <$> contents.mapM visit
  | multiElement elements => multiElement <$> elements.mapM visit
  | multiParagraph paragraphs => multiParagraph <$> paragraphs.mapM visit
  | singleRow elements widths => (singleRow · widths) <$> elements.mapM visit
  | pageBreak => return pageBreak
  | catalog title sections => (catalog · (sections.map keep)) <$> title.mapM visit
  | expression id element index => (expression id · index) <$> element.mapM visit

end Kind

/-- The live nodes of a layer, given those of its nodes. -/
def liveLayer (head : Head) (kind : Kind (Doc × List Doc)) : List Doc :=
  if head.flags.isDeleted then []
  else node head (kind.map Prod.fst) :: kind.children.flatMap Prod.snd

/-- The nodes of a document in document order, without those that are deleted and those below
them. -/
def live : Doc → List Doc :=
  para liveLayer

theorem live_node (head : Head) (kind : Kind Doc) :
    (node head kind).live =
      if head.flags.isDeleted then [] else node head kind :: kind.children.flatMap live := by
  rw [live, para_node, liveLayer, Kind.map_fst_pair, Kind.children_map, List.flatMap_map]

/-! ## Notes -/

/-- What a walk leaves on a node. -/
inductive Note where
  | nothing
  /-- The number of an expression. -/
  | index (index : UInt32)
  /-- The number of the expression that a span refers to. -/
  | referenceIndex (index : Option UInt32)
  /-- The anchor of a section. -/
  | anchor (anchor : String)
  /-- The entries of a catalog. -/
  | sections (sections : List Doc)

/-- A layer with a note.  A note for another kind of node has no effect. -/
def Kind.annotate : Note → Kind Doc → Kind Doc
  | .index index, .expression id element _ => .expression id element index
  | .referenceIndex index, .span spans text => .span spans { text with referenceIndex := index }
  | .anchor anchor, .sect level _ title contents model => .sect level anchor title contents model
  | .sections sections, .catalog title _ => .catalog title sections
  | _, kind => kind

@[simp] theorem Kind.annotate_nothing (kind : Kind Doc) : kind.annotate .nothing = kind := by
  cases kind <;> rfl

section Annotate

variable (counts : Doc → Bool) (note : Nat → Doc → Note)

/-- The walk on one layer, whose nodes come with the walks through them. -/
def annotateLayer (head : Head) (kind : Kind (Doc × StateM Nat Doc)) : StateM Nat Doc := do
  let unmarked := node head (kind.map Prod.fst)
  if head.flags.isDeleted then return unmarked
  let before ← get
  if counts unmarked then set (before + 1)
  let kind ← kind.traverse Prod.snd Prod.fst
  return node head (kind.annotate (note before unmarked))

/-- The walk, as an action on the count. -/
def annotateFrom : Doc → StateM Nat Doc :=
  para (annotateLayer counts note)

/-- A document with notes on its live nodes.  A note may depend on the node as it was and on how
many of the counted nodes come before it in document order. -/
def annotate (doc : Doc) : Doc :=
  (annotateFrom counts note doc 0).1

end Annotate

end Doc

end Bindery
