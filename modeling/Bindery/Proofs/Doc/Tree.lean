import Bindery.Doc.Basic

/-!
# Documents as trees

What holds of a node whenever it holds of the nodes right below it holds of every document
(`Doc.induct`).  The nodes below a node are here all of them, the entries of a catalog included:
they are no part of the text of a document, but they are written, read and drawn with it.

* `Kind.nodes`: the nodes of a layer.
* `Kind.map_congr`: two functions that agree on the nodes of a layer give the same layer.
* `Doc.everywhere`: all nodes of a document.
-/

namespace Bindery

namespace Doc

namespace Kind

variable {α β : Type}

/-- The nodes of a layer, in the order in which they are written. -/
def nodes : Kind α → List α
  | document header contents footer => header.toList ++ (contents ++ footer.toList)
  | paragraph _ spans => spans
  | span spans _ => spans
  | sect _ _ title contents _ => title.toList ++ contents
  | table headers rows => headers ++ rows
  | tableRow cells => cells
  | tableCell element _ _ => element.toList
  | list elements _ => elements
  | image _ => []
  | line _ => []
  | conditional contents _ => contents
  | multiElement elements => elements
  | multiParagraph paragraphs => paragraphs
  | singleRow elements _ => elements
  | pageBreak => []
  | catalog title sections => title.toList ++ sections
  | expression _ element _ => element.toList

/-- The nodes of a layer that are drawn as entries. -/
def entries : Kind α → List α
  | catalog _ sections => sections
  | _ => []

theorem nodes_eq_append (kind : Kind α) : kind.nodes = kind.children ++ kind.entries := by
  cases kind <;> simp [nodes, children, entries]

theorem mem_nodes {kind : Kind α} {child : α} :
    child ∈ kind.nodes ↔ child ∈ kind.children ∨ child ∈ kind.entries := by
  rw [nodes_eq_append, List.mem_append]

@[simp] theorem nodes_map (f : α → β) (kind : Kind α) : (kind.map f).nodes = kind.nodes.map f := by
  have toList_map (node : Option α) : (node.map f).toList = node.toList.map f := by
    cases node <;> rfl
  cases kind <;> simp [map, nodes, toList_map]

@[simp] theorem entries_map (f : α → β) (kind : Kind α) :
    (kind.map f).entries = kind.entries.map f := by
  cases kind <;> rfl

theorem map_congr {f g : α → β} {kind : Kind α} (h : ∀ child ∈ kind.nodes, f child = g child) :
    kind.map f = kind.map g := by
  have hoption (child? : Option α) (h : ∀ child, child? = some child → f child = g child) :
      child?.map f = child?.map g :=
    Option.map_congr h
  cases kind <;> simp_all [nodes, map, or_imp, forall_and]

end Kind

/-- **Induction on documents**: what passes from the nodes below a node to the node. -/
theorem induct {P : Doc → Prop}
    (step : ∀ head kind, (∀ child ∈ kind.nodes, P child) → P (node head kind)) :
    ∀ doc, P doc := by
  apply @Doc.rec P (fun kind => ∀ child ∈ kind.nodes, P child)
    (fun child? => ∀ child ∈ child?.toList, P child) (fun children => ∀ child ∈ children, P child)
    step
  all_goals simp_all [Kind.nodes, or_imp]

theorem fold_node {α : Type} (f : Head → Kind α → α) (head : Head) (kind : Kind Doc) :
    fold f (node head kind) = f head (kind.map (fold f)) := by
  rw [fold, para_node, Kind.map_map]
  rfl

/-! ## All nodes -/

/-- The nodes of a document, the entries of catalogs included. -/
def everywhere : Doc → List Doc :=
  para fun head kind => node head (kind.map Prod.fst) :: kind.nodes.flatMap Prod.snd

theorem everywhere_node (head : Head) (kind : Kind Doc) :
    (node head kind).everywhere = node head kind :: kind.nodes.flatMap everywhere := by
  rw [everywhere, para_node, Kind.map_fst_pair, Kind.nodes_map, List.flatMap_map]

theorem mem_everywhere_self (doc : Doc) : doc ∈ doc.everywhere := by
  obtain ⟨head, kind⟩ := doc
  rw [everywhere_node]
  exact List.mem_cons_self

/-- What is below a node of a document is in the document. -/
theorem mem_everywhere_of_mem_nodes {head : Head} {kind : Kind Doc} {child doc : Doc}
    (hchild : child ∈ kind.nodes) (h : doc ∈ child.everywhere) :
    doc ∈ (node head kind).everywhere := by
  rw [everywhere_node]
  exact List.mem_cons_of_mem _ (List.mem_flatMap_of_mem hchild h)

end Doc

end Bindery
