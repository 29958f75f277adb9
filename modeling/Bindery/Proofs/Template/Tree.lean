import Bindery.Template.Basic

/-!
# Templates as trees

What holds of a node whenever it holds of the nodes right below it holds of every template
(`Template.induct`).  Functions on templates are folds over their layers, and two functions that
agree on the nodes of a layer give the same layer (`Kind.map_congr`); together these are how facts
about one layer are lifted to trees.

* `Kind.nodes`: the nodes of a layer.
* `Template.Everywhere`: a property of every node of a template.
-/

namespace Bindery

namespace Template

namespace Kind

variable {α β : Type}

/-- The nodes of a layer, in the order in which they are written. -/
def nodes : Kind α → List α
  | document header contents footer => header.toList ++ (contents ++ footer.toList)
  | paragraph _ spans => spans
  | span spans _ => spans
  | sect _ title contents _ => title.toList ++ contents
  | table headers rows => headers ++ rows
  | tableRow cells => cells
  | tableCell element _ => element.toList
  | list elements _ => elements
  | image _ => []
  | line _ => []
  | conditional contents _ => contents
  | multiElement elements => elements
  | multiParagraph paragraphs => paragraphs
  | singleRow elements _ => elements
  | pageBreak => []
  | catalog title => title.toList
  | expression _ element => element.toList

@[simp] theorem nodes_map (f : α → β) (kind : Kind α) : (kind.map f).nodes = kind.nodes.map f := by
  have toList_map (node : Option α) : (node.map f).toList = node.toList.map f := by
    cases node <;> rfl
  cases kind <;> simp [map, nodes, toList_map]

theorem map_congr {f g : α → β} {kind : Kind α} (h : ∀ child ∈ kind.nodes, f child = g child) :
    kind.map f = kind.map g := by
  have hoption (child? : Option α) (h : ∀ child, child? = some child → f child = g child) :
      child?.map f = child?.map g :=
    Option.map_congr h
  cases kind <;> simp_all [nodes, map, or_imp, forall_and]

/-- A function that keeps the nodes of a layer keeps the layer. -/
theorem map_eq_self {f : α → α} {kind : Kind α} (h : ∀ child ∈ kind.nodes, f child = child) :
    kind.map f = kind :=
  (map_congr h).trans kind.map_id

end Kind

/-- **Induction on templates**: what passes from the nodes below a node to the node. -/
theorem induct {P : Template → Prop}
    (step : ∀ head kind, (∀ child ∈ kind.nodes, P child) → P (node head kind)) :
    ∀ template, P template := by
  apply @Template.rec P (fun kind => ∀ child ∈ kind.nodes, P child)
    (fun child? => ∀ child ∈ child?.toList, P child) (fun children => ∀ child ∈ children, P child)
    step
  all_goals simp_all [Kind.nodes, or_imp]

/-- Every node of a template has this property. -/
inductive Everywhere (P : Head → Kind Template → Prop) : Template → Prop
  | intro {head : Head} {kind : Kind Template} (here : P head kind)
      (below : ∀ child ∈ kind.nodes, Everywhere P child) : Everywhere P (node head kind)

theorem fold_node {α : Type} (f : Head → Kind α → α) (head : Head) (kind : Kind Template) :
    fold f (node head kind) = f head (kind.map (fold f)) := by
  rw [fold, para_node, Kind.map_map]
  rfl

end Template

end Bindery
