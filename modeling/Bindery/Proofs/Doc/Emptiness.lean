import Bindery.Doc.Content
import Bindery.Proofs.Doc.Erasure
import Bindery.Proofs.Doc.ReadingOrder
import Bindery.Proofs.Doc.References

/-!
# What is empty shows nothing

Layout asks whether a node is empty, long before the node is drawn.  Whether it then shows nothing
is decided by the texts at its leaves: a span without a text still shows a number if it has one.
Being empty says that the span refers to nothing, so the two agree wherever a number comes with a
reference (`HasNoLooseNumber`).  Then all that an empty node sends to a surface are blocks, none of
which is an expression, and texts with nothing in them (`showNothing_of_isEmpty`).

Numbers come with references in every document that has been finished
(`hasNoLooseNumber_finish`), in the entries of its catalogs as well: numbering gives a span the
number of what it refers to, and filling catalogs copies the texts of titles.

A cell whose element is empty shows nothing either, and finishing does not change whether it is one
(`isBlankCell_finish`).
-/

namespace Bindery

namespace Doc

/-! ## Showing nothing -/

/-- Whether an event leaves nothing to see: no image, line or page break, no expression and no text
with anything in it. -/
def Event.showsNothing : Event → Bool
  | enter block _ => block.index?.isNone
  | leave block => block.index?.isNone
  | text run _ => run.text == "" && run.referenceIndex.isNone
  | image .. => false
  | line .. => false
  | pageBreak => false

/-- Whether events leave nothing to see. -/
def ShowNothing (events : List Event) : Prop :=
  ∀ event ∈ events, event.showsNothing = true

theorem showNothing_nil : ShowNothing [] :=
  fun _ h => absurd h List.not_mem_nil

theorem ShowNothing.within {block : Block} {events : List Event} (hblock : block.index? = none)
    (styles : List Style) (h : ShowNothing events) : ShowNothing (within block styles events) := by
  have hshows : block.index?.isNone = true := by
    rw [hblock]
    rfl
  intro event hevent
  rcases List.mem_append.1 hevent with hevent | hevent
  · rcases List.mem_cons.1 hevent with rfl | hevent
    · exact hshows
    · exact h event hevent
  · obtain rfl := List.mem_singleton.1 hevent
    exact hshows

theorem showNothing_flatMap {α : Type} {items : List α} {f : α → List Event}
    (h : ∀ item ∈ items, ShowNothing (f item)) : ShowNothing (items.flatMap f) := by
  intro event hevent
  obtain ⟨item, hitem, hevent⟩ := List.mem_flatMap.1 hevent
  exact h item hitem event hevent

/-! ## Empty nodes -/

/-- Whether a span has a number only if it refers to something.  Other nodes have no such number. -/
def HasNoLooseNumber (doc : Doc) : Prop :=
  ∀ text, doc.spanText? = some text → text.reference = none → text.referenceIndex = none

theorem isEmpty_node (head : Head) (kind : Kind Doc) :
    (node head kind).isEmpty = layerIsEmpty (kind.map isEmpty) :=
  fold_node _ head kind

/-- **What is empty shows nothing**, inside whatever is handed on to it, if numbers come with
references. -/
theorem showNothing_of_isEmpty {doc : Doc} (hloose : ∀ met ∈ doc.everywhere, met.HasNoLooseNumber)
    (hempty : doc.isEmpty = true) (inherited : Option Inherited) :
    ShowNothing (doc.drawing.events inherited) := by
  induction doc using induct generalizing inherited with
  | step head kind ih =>
    rw [events_node]
    split
    · exact showNothing_nil
    · have hbelow (child : Doc) (hchild : child ∈ kind.nodes) (h : child.isEmpty = true)
          (inherited : Option Inherited) : ShowNothing (child.drawing.events inherited) :=
        ih child hchild (fun met hmet => hloose met (mem_everywhere_of_mem_nodes hchild hmet)) h
          inherited
      have hall (children : List Doc) (hchildren : ∀ child ∈ children, child ∈ kind.nodes)
          (h : (children.map isEmpty).all id = true) (inherited : Option Inherited) :
          ShowNothing (children.flatMap fun child => child.drawing.events inherited) := by
        refine showNothing_flatMap fun child hchild => hbelow child (hchildren child hchild) ?_ _
        exact List.all_eq_true.1 h _ (List.mem_map.2 ⟨child, hchild, rfl⟩)
      rw [isEmpty_node] at hempty
      cases kind
      case span spans text =>
        cases spans with
        | nil =>
          -- a text without anything in it, and without a reference
          rw [Kind.map, List.map_nil, layerIsEmpty, List.isEmpty_nil, if_pos rfl,
            Bool.and_eq_true, Option.isNone_iff_eq_none] at hempty
          have hindex := hloose _ (mem_everywhere_self _) text rfl hempty.2
          intro event hevent
          obtain rfl := List.mem_singleton.1 hevent
          rw [Event.showsNothing, SpanText.run, hempty.1, hindex]
          rfl
        | cons child spans =>
          rw [Kind.map, List.map_cons, layerIsEmpty] at hempty
          have hspans := hall (child :: spans) (fun _ h => h) hempty
          simp only [layerEvents, Kind.map, List.flatMap_map]
          exact hspans _
      case paragraph indent spans =>
        have hspans := hall spans (fun _ h => h) hempty none
        simp only [layerEvents, Kind.map, Drawing.all, List.flatMap_map]
        exact hspans.within rfl _
      case multiElement elements =>
        rw [Kind.map, layerIsEmpty, List.isEmpty_map, List.isEmpty_iff] at hempty
        subst hempty
        exact showNothing_nil.within rfl _
      case multiParagraph paragraphs =>
        have hparagraphs := hall paragraphs (fun _ h => h) hempty none
        simp only [layerEvents, Kind.map, Drawing.all, List.flatMap_map]
        exact hparagraphs.within rfl _
      all_goals exact absurd hempty Bool.false_ne_true

/-! ## Finished documents -/

/-- Being empty does not depend on what passes leave on a document. -/
theorem isEmpty_erased (doc : Doc) : doc.erased.isEmpty = doc.isEmpty := by
  have hbare (kind : Kind Bool) : layerIsEmpty kind.bare = layerIsEmpty kind := by
    cases kind <;> rfl
  induction doc using induct with
  | step head kind ih =>
    rw [erased_node, isEmpty_node, isEmpty_node, ← Kind.bare_map, hbare, Kind.map_map]
    exact congrArg layerIsEmpty (Kind.map_congr ih)

/-- A number that is known to belong to an expression the span refers to is not loose. -/
theorem hasNoLooseNumber_of_refersTo {doc span : Doc}
    (h : ∀ index, span.reference? = some (some index) → doc.RefersTo span index) :
    span.HasNoLooseNumber := by
  intro text htext hnone
  cases hindex : text.referenceIndex with
  | none => rfl
  | some index =>
    have hnumber : span.reference? = some (some index) := by
      rw [reference?, htext, Option.map_some, hindex]
    obtain ⟨text', id, htext', hid, -⟩ := h index hnumber
    obtain rfl := Option.some.inj (htext.symm.trans htext')
    exact absurd (hnone.symm.trans hid) (by simp)

/-- **Numbers come with references in a finished document**, whether or not its expressions are
numbered and its catalogs filled. -/
theorem hasNoLooseNumber_finish (options : Options) {doc : Doc}
    (hunnumbered : ∀ met ∈ doc.everywhere, met.kind.IsUnnumbered)
    (huncataloged : ∀ met ∈ doc.everywhere, met.kind.IsUncataloged) :
    ∀ met ∈ (options.finish doc).everywhere, met.HasNoLooseNumber := by
  intro met hmet
  rw [Options.finish] at hmet
  cases hnumbers : options.numberExpressions with
  | true =>
    have hnumbered := isNumbered_numberExpressions hunnumbered
    have hcatalogs := isUncataloged_numberExpressions huncataloged
    rw [hnumbers, if_pos rfl] at hmet
    split at hmet
    · exact hasNoLooseNumber_of_refersTo fun index =>
        hnumbered.refersTo_fillCatalogs hcatalogs hmet
    · exact hasNoLooseNumber_of_refersTo fun index => hnumbered.refersTo hcatalogs hmet
  | false =>
    have hnone : met.kind.IsUnnumbered := by
      rw [hnumbers, if_neg Bool.false_ne_true] at hmet
      split at hmet
      · exact isUnnumbered_fillCatalogs hunnumbered met hmet
      · exact hunnumbered met hmet
    exact fun text htext _ => hnone.of_spanText? htext

/-! ## Empty cells -/

/-- Whether the document is a cell in which there is nothing, or something empty. -/
def isBlankCell (doc : Doc) : Bool :=
  match doc.kind with
  | .tableCell element _ _ => element.all isEmpty
  | _ => false

/-- **A cell with nothing in it stays one** when it is finished. -/
theorem isBlankCell_finish (options : Options) (doc : Doc) :
    (options.finish doc).isBlankCell = doc.isBlankCell := by
  have herased (doc : Doc) : doc.erased.isBlankCell = doc.isBlankCell := by
    obtain ⟨head, kind⟩ := doc
    rw [erased_node]
    cases kind with
    | tableCell element rowSpan colSpan =>
      cases element with
      | none => rfl
      | some element => exact isEmpty_erased element
    | _ => rfl
  rw [← herased, erased_finish, herased]

/-- **A cell with nothing in it shows nothing.** -/
theorem showNothing_of_isBlankCell {doc : Doc}
    (hloose : ∀ met ∈ doc.everywhere, met.HasNoLooseNumber) (hblank : doc.isBlankCell = true)
    (inherited : Option Inherited) : ShowNothing (doc.drawing.events inherited) := by
  obtain ⟨head, kind⟩ := doc
  cases kind
  case tableCell element rowSpan colSpan =>
    rw [events_node]
    simp only [layerEvents, Kind.map, cellEvents]
    split
    · exact showNothing_nil
    · split
      · exact showNothing_nil
      · refine ShowNothing.within rfl _ ?_
        cases element with
        | none => exact showNothing_nil
        | some element =>
          have hbelow : element ∈ (Kind.tableCell (some element) rowSpan colSpan).nodes := by
            simp [Kind.nodes]
          exact showNothing_of_isEmpty
            (fun met hmet => hloose met (mem_everywhere_of_mem_nodes hbelow hmet)) hblank none
  all_goals exact absurd hblank Bool.false_ne_true

end Doc

end Bindery
