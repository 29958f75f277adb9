import Bindery.Doc.Walk

/-!
# Filling catalogs

Every live section with a title is given an anchor, and every live catalog gets an entry for each of
them, in document order.  An entry is again a section, with the title and styles of the one it
points to, but without contents.
-/

namespace Bindery

namespace Doc

/-- Whether the node is a section with a title. -/
def isTitled (doc : Doc) : Bool :=
  match doc.kind with
  | .sect _ _ title _ _ => title.isSome
  | _ => false

/-- The live sections with a title, in document order. -/
def titledSections (doc : Doc) : List Doc :=
  doc.live.filter isTitled

/-- The anchor of a section that has none of its own, after so many others. -/
def anchorAfter (before : Nat) : String :=
  "section-" ++ toString (before + 1)

/-- The entry of a catalog for a section, after so many others. -/
def catalogEntry (before : Nat) : Doc → Doc
  | .node head (.sect level anchor title _ model) =>
    .node ⟨head.styles, .unset⟩ (.sect level (anchor.getD (anchorAfter before)) title [] model)
  | doc => doc

/-- The entries of every catalog. -/
def catalogEntries (doc : Doc) : List Doc :=
  doc.titledSections.zipIdx.map fun (titled, before) => catalogEntry before titled

/-- The anchor that a node is given, if it is a section with a title, or the entries, if it is a
catalog. -/
def catalogNote (entries : List Doc) (before : Nat) (doc : Doc) : Note :=
  match doc.kind with
  | .sect _ anchor (some _) _ _ => .anchor (anchor.getD (anchorAfter before))
  | .catalog _ _ => .sections entries
  | _ => .nothing

/-- A document with its catalogs filled. -/
def fillCatalogs (doc : Doc) : Doc :=
  doc.annotate isTitled (catalogNote doc.catalogEntries)

end Doc

end Bindery
