import Bindery.Doc.Content
import Bindery.Doc.Walk

/-!
# Editing a document

A node of a document is addressed by its place in document order, the root being at zero.  Deleted
nodes count.
-/

namespace Bindery

namespace Doc

/-- The node at a place. -/
def nodeAt? (doc : Doc) (place : Nat) : Option Doc :=
  doc.outline[place]?.map Prod.snd

/-- One layer of an edit: the place is counted down until it is reached. -/
def modifyLayer (place : Nat) (edit : Doc → Doc) (head : Head)
    (kind : Kind (Doc × StateM Nat Doc)) :
    StateM Nat Doc := do
  let here ← get
  set (here + 1)
  let edited ← node head <$> kind.traverse Prod.snd Prod.fst
  return if here = place then edit edited else edited

/-- A document after an edit of the node at a place. -/
def modifyAt (place : Nat) (edit : Doc → Doc) (doc : Doc) : Doc :=
  (para (modifyLayer place edit) doc 0).1

/-- Say whether a node is deleted, or leave it open. -/
def setDeleted (deleted : Option Bool) : Doc → Doc
  | node head kind => node { head with flags := { head.flags with deleted } } kind

/-- Set both spans of a cell. -/
def setSpans (rowSpan colSpan : Option UInt32) : Doc → Doc
  | node head (.tableCell element _ _) => node head (.tableCell element rowSpan colSpan)
  | doc => doc

/-- Remove the last cell of a row. -/
def dropLastCell : Doc → Doc
  | node head (.tableRow cells) => node head (.tableRow cells.dropLast)
  | doc => doc

/-- How many cells a row has. -/
def cellCount? : Doc → Option Nat
  | node _ (.tableRow cells) => some cells.length
  | _ => none

end Doc

end Bindery
