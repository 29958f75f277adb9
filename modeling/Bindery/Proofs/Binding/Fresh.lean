import Bindery.Binding.Basic
import Bindery.Proofs.Doc.Catalog
import Bindery.Proofs.Table.Content
import Bindery.Proofs.Template.Tree

/-!
# Bound documents are fresh

Binding gives no numbers, anchors or entries: these are left to the passes through the document that
is bound.  So every node of a bound document is *fresh* (`Template.isFresh_bindChild`), which is
what the passes rely on.  They do not clear what is there, and do not enter deleted nodes at all.

A template is bound in three roles, and the statement that goes through the induction is about all
of them (`Binding.IsFresh`).  In a table only the elements of cells are bound; the cells and rows
around them are made by layout, which gives a cell no element that was not bound.
-/

namespace Bindery

namespace Doc

/-- **Fresh documents**: no node has a number, an anchor or entries. -/
def IsFresh (doc : Doc) : Prop :=
  ∀ node' ∈ doc.everywhere, node'.kind.IsUnnumbered ∧ node'.kind.IsUncataloged

theorem isFresh_node {head : Head} {kind : Kind Doc} :
    (node head kind).IsFresh ↔
      (kind.IsUnnumbered ∧ kind.IsUncataloged) ∧ ∀ child ∈ kind.nodes, child.IsFresh := by
  rw [IsFresh, everywhere_node, List.forall_mem_cons]
  simp only [List.mem_flatMap, IsFresh]
  exact and_congr Iff.rfl ⟨fun h child hchild node' hnode => h node' ⟨child, hchild, hnode⟩,
    fun h node' ⟨child, hchild, hnode⟩ => h child hchild node' hnode⟩

theorem isFresh_ofRun (run : Markup.Run) : (ofRun run).IsFresh :=
  isFresh_node.2 ⟨⟨rfl, rfl, rfl⟩, by simp [Kind.nodes]⟩

/-- A cell is fresh if its element is. -/
theorem isFresh_toDoc {slot : Table.Slot} (h : ∀ element ∈ slot.element, element.IsFresh) :
    slot.toDoc.IsFresh :=
  isFresh_node.2 ⟨⟨trivial, rfl, rfl⟩, fun child hchild => h child (Option.mem_toList.1 hchild)⟩

end Doc

/-- Whatever a template gives is fresh, in each of its roles. -/
structure Binding.IsFresh (binding : Binding) : Prop where
  node : ∀ scope, ∀ doc ∈ binding.node scope, doc.IsFresh
  element : ∀ value, ∀ element ∈ (binding.column.slot value).element, element.IsFresh
  rows : ∀ ambient, ∀ row ∈ binding.rows ambient, row.IsFresh

namespace Binding

variable {bindings : List Binding} {binding? : Option Binding}

theorem isFresh_expandAll (h : ∀ binding ∈ bindings, binding.IsFresh) (ambient : Json) :
    ∀ doc ∈ expandAll bindings ambient, doc.IsFresh := by
  intro doc hdoc
  obtain ⟨binding, hbinding, hdoc⟩ := List.mem_flatMap.1 hdoc
  obtain ⟨scope, -, hdoc⟩ := List.mem_filterMap.1 hdoc
  exact (h binding hbinding).node scope doc hdoc

theorem isFresh_optional (h : ∀ binding ∈ binding?.toList, binding.IsFresh) (ambient : Json) :
    ∀ doc ∈ (optional binding? ambient).toList, doc.IsFresh := by
  intro doc hdoc
  obtain ⟨binding, hbinding, hdoc⟩ := Option.bind_eq_some_iff.1 (Option.mem_toList.1 hdoc)
  exact (h binding (Option.mem_toList.2 hbinding)).node _ doc hdoc

theorem isFresh_rows (h : ∀ binding ∈ bindings, binding.IsFresh) (ambient : Json) :
    ∀ row ∈ bindings.flatMap (·.rows ambient), row.IsFresh := by
  intro row hrow
  obtain ⟨binding, hbinding, hrow⟩ := List.mem_flatMap.1 hrow
  exact (h binding hbinding).rows ambient row hrow

end Binding

namespace Template

open Binding (isFresh_expandAll isFresh_optional isFresh_rows)

/-- The runs that markup makes are fresh. -/
theorem isFresh_runs (source : SpanSource) (scope : Json) :
    ∀ run ∈ source.runs scope, run.IsFresh := by
  intro run hrun
  unfold SpanSource.runs at hrun
  split at hrun
  · split at hrun
    · obtain ⟨run, -, rfl⟩ := List.mem_map.1 hrun
      exact Doc.isFresh_ofRun run
    · simp at hrun
  · simp at hrun

section Layer

variable {kind : Kind Binding} (h : ∀ binding ∈ kind.nodes, binding.IsFresh)

include h

/-- **What a layer becomes is fresh** if what is below it is. -/
theorem isFresh_bindKind (head : Doc.Head) {scope : Json} {kind' : Doc.Kind Doc}
    (hkind' : bindKind kind scope = some kind') : (Doc.node head kind').IsFresh := by
  rw [Doc.isFresh_node]
  cases kind <;>
    simp only [Kind.nodes, List.forall_mem_append] at h <;>
    simp only [bindKind, Option.some.injEq] at hkind'
  case document header contents footer =>
    subst hkind'
    simp only [Doc.Kind.nodes, List.forall_mem_append]
    exact ⟨⟨trivial, rfl, rfl⟩, isFresh_optional h.1 scope, isFresh_expandAll h.2.1 scope,
      isFresh_optional h.2.2 scope⟩
  case span spans source =>
    subst hkind'
    refine ⟨⟨rfl, rfl, rfl⟩, ?_⟩
    simp only [Doc.Kind.nodes]
    split
    · exact isFresh_runs source scope
    · exact isFresh_expandAll h scope
  case sect level title contents model =>
    subst hkind'
    simp only [Doc.Kind.nodes, List.forall_mem_append]
    refine ⟨⟨trivial, rfl, rfl⟩, fun doc hdoc => ?_, isFresh_expandAll h.2 scope⟩
    obtain ⟨binding, hbinding, hdoc⟩ := Option.bind_eq_some_iff.1 (Option.mem_toList.1 hdoc)
    exact (h.1 binding (Option.mem_toList.2 hbinding)).node scope doc hdoc
  case table headers rows =>
    subst hkind'
    simp only [Doc.Kind.nodes, List.forall_mem_append]
    exact ⟨⟨trivial, rfl, rfl⟩, isFresh_rows h.1 scope, isFresh_rows h.2 scope⟩
  case tableRow cells =>
    subst hkind'
    refine ⟨⟨trivial, rfl, rfl⟩, fun doc hdoc => ?_⟩
    obtain ⟨binding, hbinding, rfl⟩ := List.mem_map.1 hdoc
    exact Doc.isFresh_toDoc ((h binding hbinding).element _)
  case conditional contents condition =>
    split at hkind'
    · obtain rfl := Option.some.inj hkind'
      exact ⟨⟨trivial, rfl, rfl⟩, isFresh_expandAll h scope⟩
    · exact absurd hkind' (by simp)
  case image | line | pageBreak =>
    subst hkind'
    exact ⟨⟨trivial, rfl, rfl⟩, by simp [Doc.Kind.nodes]⟩
  case tableCell element settings =>
    subst hkind'
    exact ⟨⟨trivial, rfl, rfl⟩, isFresh_optional h scope⟩
  case catalog title =>
    subst hkind'
    refine ⟨⟨trivial, rfl, rfl⟩, ?_⟩
    rw [Doc.Kind.nodes, List.append_nil]
    exact isFresh_optional h scope
  case expression id element =>
    subst hkind'
    exact ⟨⟨rfl, rfl, rfl⟩, isFresh_optional h scope⟩
  -- the other layers have a list of nodes and nothing else
  all_goals
    subst hkind'
    exact ⟨⟨trivial, rfl, rfl⟩, isFresh_expandAll h scope⟩

theorem isFresh_bindLayer (head : Head) (scope : Json) :
    ∀ doc ∈ bindLayer head kind scope, doc.IsFresh := by
  intro doc hdoc
  obtain ⟨kind', hkind', rfl⟩ := Option.map_eq_some_iff.1 hdoc
  exact isFresh_bindKind h _ hkind'

/-- The element of a cell is fresh, be it a cell of the template or a node put into one. -/
theorem isFresh_columnLayer (head : Head) (value : Json) :
    ∀ element ∈ ((columnLayer head kind).slot value).element, element.IsFresh := by
  cases kind with
  | tableCell element settings =>
    exact fun doc hdoc => isFresh_optional h value doc (Option.mem_toList.2 hdoc)
  | _ => exact isFresh_bindLayer h head value

/-- Rows are fresh, as layout puts into their cells only what was bound. -/
theorem isFresh_gridLayer (head : Head) (ambient : Json) :
    ∀ slots ∈ gridLayer head.access kind ambient, (head.row slots).IsFresh := by
  intro slots hslots
  cases kind with
  | tableRow cells =>
    refine Doc.isFresh_node.2 ⟨⟨trivial, rfl, rfl⟩, fun cell hcell => ?_⟩
    obtain ⟨slot, hslot, rfl⟩ := List.mem_map.1 hcell
    refine Doc.isFresh_toDoc fun element helement => ?_
    rcases Table.element_of_mem_layout _ hslots hslot with hnone | ⟨column, hcolumn, value, hvalue⟩
    · rw [hnone] at helement
      exact absurd helement (by simp)
    · obtain ⟨binding, hbinding, rfl⟩ := List.mem_map.1 hcolumn
      exact (h binding hbinding).element value element (hvalue ▸ helement)
  | _ => exact absurd hslots (by simp [gridLayer])

theorem isFresh_bindingLayer (head : Head) : (bindingLayer head kind).IsFresh where
  node := isFresh_bindLayer h head
  element := isFresh_columnLayer h head
  rows ambient row hrow := by
    obtain ⟨slots, hslots, rfl⟩ := List.mem_map.1 hrow
    exact isFresh_gridLayer h head ambient slots hslots

end Layer

theorem isFresh_binding (template : Template) : template.binding.IsFresh := by
  induction template using induct with
  | step head kind ih =>
    rw [binding_node]
    refine isFresh_bindingLayer (fun binding hbinding => ?_) head
    rw [Kind.nodes_map] at hbinding
    obtain ⟨child, hchild, rfl⟩ := List.mem_map.1 hbinding
    exact ih child hchild

/-- **Bound documents are fresh.** -/
theorem isFresh_bindChild (template : Template) (ambient : Json) :
    ∀ doc ∈ template.bindChild ambient, doc.IsFresh :=
  template.isFresh_binding.node _

end Template

end Bindery
