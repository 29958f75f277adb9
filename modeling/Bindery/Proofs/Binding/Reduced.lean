import Bindery.Proofs.Table.Reduced
import Bindery.Proofs.Template.RoundTrip

/-!
# Binding a template that was saved

A template that is written and read again comes back with one style of each kind at every node.
Binding commutes with reducing styles (`Template.binding_reduced`): what a reduced template gives,
in each of its roles, is what the template gives, reduced.  In a table this rests on layout, which
compares elements and asks whether they are empty.

The passes through a document commute with reducing as well, and a reduced document is equal to the
document itself and is drawn like it.  So saving a template does not show in what is bound
(`Template.bindDocument_read_back`).
-/

namespace Bindery

/-- What is given, with one style of each kind at every node, in each of the roles. -/
def Binding.reduced (binding : Binding) : Binding where
  access := binding.access
  node scope := (binding.node scope).map Doc.reduced
  column := binding.column.reduced
  rows ambient := (binding.rows ambient).map Doc.reduced

namespace Binding

theorem expandAll_map_reduced (bindings : List Binding) (ambient : Json) :
    expandAll (bindings.map reduced) ambient = (expandAll bindings ambient).map Doc.reduced := by
  rw [expandAll, expandAll, List.flatMap_map, List.map_flatMap]
  refine List.flatMap_congr fun binding _ => ?_
  rw [expand, expand, List.map_filterMap]
  rfl

theorem optional_map_reduced (binding? : Option Binding) (ambient : Json) :
    optional (binding?.map reduced) ambient = (optional binding? ambient).map Doc.reduced := by
  cases binding? <;> rfl

theorem rows_map_reduced (bindings : List Binding) (ambient : Json) :
    (bindings.map reduced).flatMap (·.rows ambient) =
      (bindings.flatMap (·.rows ambient)).map Doc.reduced := by
  rw [List.flatMap_map, List.map_flatMap]
  rfl

end Binding

namespace Template

open Binding (expandAll_map_reduced optional_map_reduced rows_map_reduced)

/-- The head of a node with one style of each kind. -/
def Head.reduced (head : Head) : Head :=
  { head with styles := Style.dedup head.styles }

theorem toDoc_reduced (head : Head) (kind : Doc.Kind Doc) :
    head.reduced.toDoc (kind.map Doc.reduced) = (head.toDoc kind).reduced := by
  rw [Head.toDoc, Head.toDoc, Doc.reduced_node]
  rfl

/-- The runs that markup makes have no styles. -/
theorem map_reduced_runs (source : SpanSource) (scope : Json) :
    (source.runs scope).map Doc.reduced = source.runs scope := by
  have hrun (run : Markup.Run) : (Doc.ofRun run).reduced = Doc.ofRun run := by
    rw [Doc.ofRun, Doc.ofKind, Doc.reduced_node]
    rfl
  unfold SpanSource.runs
  split
  · split
    · rw [List.map_map]
      exact List.map_congr_left fun run _ => hrun run
    · rfl
  · rfl

section Layer

variable (kind : Kind Binding)

/-- **A layer over reduced bindings** becomes the reduced layer. -/
theorem bindKind_map_reduced (scope : Json) :
    bindKind (kind.map Binding.reduced) scope =
      (bindKind kind scope).map (Doc.Kind.map Doc.reduced) := by
  cases kind
  case span spans source =>
    have hspans : (if (spans.map Binding.reduced).isEmpty then source.runs scope
        else Binding.expandAll (spans.map Binding.reduced) scope) =
        (if spans.isEmpty then source.runs scope
          else Binding.expandAll spans scope).map Doc.reduced := by
      rw [List.isEmpty_map]
      split
      · exact (map_reduced_runs source scope).symm
      · exact expandAll_map_reduced spans scope
    simp only [Kind.map, bindKind, hspans]
    simp only [SpanSource.text, List.isEmpty_map, Option.map_some, Doc.Kind.map]
  case sect level title contents model =>
    cases title <;>
      simp only [Kind.map, bindKind, expandAll_map_reduced, Option.map_some, Doc.Kind.map] <;> rfl
  case tableRow cells =>
    simp only [Kind.map, bindKind, Option.map_some, Doc.Kind.map, List.map_map]
    refine congrArg (fun cells => some (Doc.Kind.tableRow cells)) (List.map_congr_left ?_)
    exact fun cell _ => (cell.column.single scope).toDoc_reduced
  case conditional contents condition =>
    simp only [Kind.map, bindKind]
    split
    · simp only [expandAll_map_reduced, Option.map_some, Doc.Kind.map]
    · rfl
  all_goals
    simp only [Kind.map, bindKind, expandAll_map_reduced, optional_map_reduced, rows_map_reduced,
      Option.map_some, Doc.Kind.map, List.map_nil]

theorem bindLayer_reduced (head : Head) (scope : Json) :
    bindLayer head.reduced (kind.map Binding.reduced) scope =
      (bindLayer head kind scope).map Doc.reduced := by
  rw [bindLayer, bindLayer, bindKind_map_reduced]
  cases bindKind kind scope with
  | none => rfl
  | some kind' => exact congrArg some (toDoc_reduced head kind')

theorem columnLayer_reduced (head : Head) :
    columnLayer head.reduced (kind.map Binding.reduced) = (columnLayer head kind).reduced := by
  cases kind with
  | tableCell element settings =>
    have hslot (scope : Json) :
        (columnLayer head.reduced
          ((Kind.tableCell element settings).map Binding.reduced)).slot scope =
          ((columnLayer head (.tableCell element settings)).slot scope).reduced := by
      simp only [columnLayer, Kind.map, optional_map_reduced]
      rfl
    exact congrArg (Table.Column.mk head.access settings.autoRowSpan settings.merge
      settings.colSpan) (funext hslot)
  | _ =>
    exact congrArg (Table.Column.mk head.access false .none none) (funext fun scope =>
      congrArg Table.Slot.ofElement (bindLayer_reduced _ head scope))

/-- The slots of the rows of a layer over reduced bindings are the reduced slots. -/
theorem gridLayer_map_reduced (access : String) (ambient : Json) :
    gridLayer access (kind.map Binding.reduced) ambient =
      (gridLayer access kind ambient).map (List.map Table.Slot.reduced) := by
  cases kind with
  | tableRow cells =>
    have hcolumns : (cells.map Binding.reduced).map Binding.column =
        (cells.map Binding.column).map Table.Column.reduced := by
      rw [List.map_map, List.map_map]
      rfl
    rw [Kind.map, gridLayer, hcolumns, Table.layout_map_reduced, gridLayer]
  | _ => rfl

theorem row_reduced (head : Head) (slots : List Table.Slot) :
    head.reduced.row (slots.map Table.Slot.reduced) = (head.row slots).reduced := by
  have hcells : (slots.map Table.Slot.reduced).map Table.Slot.toDoc =
      (slots.map Table.Slot.toDoc).map Doc.reduced := by
    rw [List.map_map, List.map_map]
    exact List.map_congr_left fun slot _ => slot.toDoc_reduced
  rw [Head.row, Head.row, ← toDoc_reduced, Doc.Kind.map, hcells]

theorem bindingLayer_reduced (head : Head) :
    bindingLayer head.reduced (kind.map Binding.reduced) = (bindingLayer head kind).reduced := by
  have hrows (ambient : Json) :
      (bindingLayer head.reduced (kind.map Binding.reduced)).rows ambient =
        ((bindingLayer head kind).rows ambient).map Doc.reduced := by
    simp only [bindingLayer]
    rw [gridLayer_map_reduced, List.map_map, List.map_map]
    exact List.map_congr_left fun slots _ => row_reduced head slots
  simp only [bindingLayer, Binding.reduced, Binding.mk.injEq]
  exact ⟨rfl, funext (bindLayer_reduced kind head), columnLayer_reduced kind head, funext hrows⟩

end Layer

/-- **Binding commutes with reducing.** -/
theorem binding_reduced (template : Template) :
    template.reduced.binding = template.binding.reduced := by
  induction template using induct with
  | step head kind ih =>
    have hlayer : (kind.map reduced).map binding = (kind.map binding).map Binding.reduced := by
      rw [Kind.map_map, Kind.map_map]
      exact Kind.map_congr ih
    rw [reduced_node, binding_node, hlayer, binding_node]
    exact bindingLayer_reduced (kind.map binding) head

theorem nodeKind_reduced (template : Template) :
    template.reduced.kind.nodeKind = template.kind.nodeKind := by
  obtain ⟨head, kind⟩ := template
  rw [reduced_node]
  exact Kind.nodeKind_map _ _

/-- A reduced template fails like the template, and else gives the reduced document. -/
theorem bindDocument_reduced (options : Options) (template : Template) (model : Json) :
    template.reduced.bindDocument options model =
      (template.bindDocument options model).map Doc.reduced := by
  have hbound : template.reduced.bindChild model = (template.bindChild model).map Doc.reduced := by
    rw [bindChild, binding_reduced]
    rfl
  rw [bindDocument, bindDocument, hbound, nodeKind_reduced]
  cases template.bindChild model with
  | none => rfl
  | some bound => exact congrArg Except.ok (Doc.finish_reduced options bound)

/-- Two outcomes that cannot be told apart: the same fault, or documents that are equal and have the
same drawing. -/
inductive SameOutcome : Except Fault Doc → Except Fault Doc → Prop
  | fault (fault : Fault) : SameOutcome (.error fault) (.error fault)
  | document {doc doc' : Doc} (equal : doc'.agree doc = true) (drawn : doc'.events = doc.events) :
    SameOutcome (.ok doc') (.ok doc)

/-- **Saving a template does not change what it is bound to.**  The template that is read back from
a written one fails where that one fails, with the same fault, and else is bound to an equal
document with the same drawing. -/
theorem bindDocument_read_back (template : Template) (options : Options) (model : Json) :
    ∃ template', ofJson template.toJson = .ok (some template') ∧
      SameOutcome (template'.bindDocument options model) (template.bindDocument options model) := by
  refine ⟨template.reduced, template.ofJson_toJson, ?_⟩
  rw [bindDocument_reduced]
  cases template.bindDocument options model with
  | error fault => exact .fault fault
  | ok doc => exact .document doc.agree_reduced_self doc.events_reduced

end Template

end Bindery
