import Bindery.Doc.Events
import Bindery.Doc.Walk
import Bindery.Proofs.Doc.Tree
import Mathlib.Data.List.Basic
import Mathlib.Data.List.Flatten

/-!
# Which nodes are drawn

A drawing is a sequence of events, and what a node adds to it stands among the events of the nodes
around it.  Here it is said which sections and which entries of catalogs are entered in the drawing
of a document, wherever in the sequence this happens (`enter_mem_events_iff`): those of the nodes
that are `shown`.

Drawing goes through a document as a walk does, except that it does not stop at deleted nodes only.
A section without contents is not drawn, so neither is its title, and a cell whose place is covered
is not drawn, so neither is its element.  Everything that is shown is met by a walk, but not the
other way round (`shown_sublist_live`).

What a layer adds depends on the nodes in it by their drawings and by whether they are deleted, and
on nothing else (`layerEvents_congr`).
-/

namespace Bindery

namespace Doc

/-- A node with its drawing, as the functions on layers see it. -/
def withDrawing (doc : Doc) : Doc × Drawing :=
  (doc, doc.drawing)

theorem events_node (head : Head) (kind : Kind Doc) (inherited : Option Inherited) :
    (node head kind).drawing.events inherited =
      if head.flags.isDeleted then [] else layerEvents head (kind.map withDrawing) inherited := by
  rw [drawing_node]
  rfl

theorem entry_node (head : Head) (kind : Kind Doc) :
    (node head kind).drawing.entry = layerEntry (kind.map withDrawing) := by
  rw [drawing_node]
  rfl

/-- The events of a live node that is not inside a span. -/
theorem events_of_live {head : Head} (hlive : head.flags.isDeleted = false) (kind : Kind Doc) :
    (node head kind).events = layerEvents head (kind.map withDrawing) none := by
  rw [events, Drawing.whole, events_node, hlive, if_neg Bool.false_ne_true]

theorem all_withDrawing (docs : List Doc) :
    Drawing.all ((docs.map withDrawing).map Prod.snd) = docs.flatMap events := by
  rw [Drawing.all, List.map_map, List.flatMap_map]
  rfl

theorem optional_withDrawing (doc? : Option Doc) :
    Drawing.optional ((doc?.map withDrawing).map Prod.snd) = doc?.toList.flatMap events := by
  cases doc? with
  | none => rfl
  | some doc => exact (List.flatMap_singleton ..).symm

/-- A deleted node is not drawn. -/
theorem events_of_isDeleted {doc : Doc} (h : doc.isDeleted = true) (inherited : Option Inherited) :
    doc.drawing.events inherited = [] := by
  obtain ⟨head, kind⟩ := doc
  rw [events_node]
  exact if_pos h

/-- The items of a list are its live elements in order, whatever their drawings are. -/
theorem itemEvents_map {docs : List Doc} (model : ListModel) (f : Doc → Doc)
    (hf : ∀ doc, (f doc).isDeleted = doc.isDeleted) :
    itemEvents model ((docs.map f).map withDrawing) =
      (docs.filter fun doc => !doc.isDeleted).zipIdx.flatMap fun item =>
        within (.item model (item.2 + 1)) [] (f item.1).drawing.whole := by
  have hlive : ((docs.map f).map withDrawing).filter (fun element => !element.1.isDeleted) =
      (docs.filter fun doc => !doc.isDeleted).map (withDrawing ∘ f) := by
    rw [List.map_map, List.filter_map]
    congr 2
    funext doc
    exact congrArg Bool.not (hf doc)
  rw [itemEvents, hlive, List.zipIdx_map, List.flatMap_map]
  rfl

theorem itemEvents_eq (model : ListModel) (docs : List Doc) :
    itemEvents model (docs.map withDrawing) =
      (docs.filter fun doc => !doc.isDeleted).zipIdx.flatMap fun item =>
        within (.item model (item.2 + 1)) [] item.1.drawing.whole := by
  have hitems : itemEvents model ((docs.map id).map withDrawing) = _ :=
    itemEvents_map model id fun _ => rfl
  rwa [List.map_id] at hitems

/-- What is gathered from the items of a list, if deleted elements have none of it. -/
theorem flatMap_items {α : Type} {f : Doc → List α}
    (hf : ∀ doc, doc.isDeleted = true → f doc = []) (docs : List Doc) :
    (docs.filter fun doc => !doc.isDeleted).zipIdx.flatMap (fun item => f item.1) =
      docs.flatMap f := by
  have hplaces (live : List Doc) : live.zipIdx.flatMap (fun item => f item.1) = live.flatMap f := by
    conv => rhs; rw [← List.zipIdx_map_fst 0 live, List.flatMap_map]
  rw [hplaces]
  induction docs with
  | nil => rfl
  | cons doc docs ih =>
    rw [List.filter_cons, List.flatMap_cons, ← ih]
    cases hdeleted : doc.isDeleted with
    | true => rw [hf doc hdeleted]; rfl
    | false => rfl

/-! ## Layers with the same drawing -/

section Congr

variable {α : Type} {f g : α → Doc × Drawing} {items : List α} {item? : Option α}

/-- Two nodes that are drawn alike as themselves. -/
def DrawnAlike (a b : Doc × Drawing) : Prop :=
  a.1.isDeleted = b.1.isDeleted ∧ ∀ inherited, a.2.events inherited = b.2.events inherited

theorem all_congr (h : ∀ item ∈ items, DrawnAlike (f item) (g item)) :
    Drawing.all ((items.map f).map Prod.snd) = Drawing.all ((items.map g).map Prod.snd) := by
  simp only [Drawing.all, List.flatMap_map]
  exact List.flatMap_congr fun item hitem => (h item hitem).2 none

theorem optional_congr (h : ∀ item ∈ item?.toList, DrawnAlike (f item) (g item)) :
    Drawing.optional ((item?.map f).map Prod.snd) =
      Drawing.optional ((item?.map g).map Prod.snd) := by
  cases item? with
  | none => rfl
  | some item => exact (h item (by simp)).2 none

theorem optionalWithin_congr (block : Block)
    (h : ∀ item ∈ item?.toList, DrawnAlike (f item) (g item)) :
    Drawing.optionalWithin block ((item?.map f).map Prod.snd) =
      Drawing.optionalWithin block ((item?.map g).map Prod.snd) := by
  cases item? with
  | none => rfl
  | some item => exact congrArg (within block []) ((h item (by simp)).2 none)

theorem headerEvents_congr (h : ∀ item ∈ items, DrawnAlike (f item) (g item)) :
    headerEvents ((items.map f).map Prod.snd) = headerEvents ((items.map g).map Prod.snd) := by
  simp only [headerEvents, List.isEmpty_map, all_congr h]

theorem itemEvents_congr (model : ListModel)
    (h : ∀ item ∈ items, DrawnAlike (f item) (g item)) :
    itemEvents model (items.map f) = itemEvents model (items.map g) := by
  have hlive : items.filter (fun item => !(f item).1.isDeleted) =
      items.filter fun item => !(g item).1.isDeleted :=
    List.filter_congr fun item hitem => by rw [(h item hitem).1]
  simp only [itemEvents, List.filter_map, List.zipIdx_map, List.flatMap_map, Function.comp_def,
    hlive]
  refine List.flatMap_congr fun item hitem => ?_
  have hmem := (List.mem_filter.1 (List.fst_mem_of_mem_zipIdx hitem)).1
  exact congrArg (within _ []) ((h item.1 hmem).2 none)

/-- **A layer is drawn alike with other nodes in it** if the nodes are drawn alike, those that are
entries as entries, and all others as themselves. -/
theorem layerEvents_congr (head : Head) (kind : Kind α) (inherited : Option Inherited)
    (h : ∀ item ∈ kind.children, DrawnAlike (f item) (g item))
    (hentries : ∀ item ∈ kind.entries, (f item).2.entry = (g item).2.entry) :
    layerEvents head (kind.map f) inherited = layerEvents head (kind.map g) inherited := by
  cases kind <;> simp only [Kind.children, List.forall_mem_append] at h <;>
    simp only [Kind.map, layerEvents, Kind.nodeKind, List.isEmpty_map]
  case document header contents footer =>
    rw [optionalWithin_congr .header h.1.1, all_congr h.1.2, optionalWithin_congr .footer h.2]
  case span spans text =>
    simp only [List.flatMap_map]
    rw [List.flatMap_congr fun item hitem => (h item hitem).2 _]
  case sect level anchor title contents model => rw [optional_congr h.1, all_congr h.2]
  case table headers rows => rw [headerEvents_congr h.1, all_congr h.2]
  case tableCell element rowSpan colSpan => rw [optional_congr h]
  case list elements model => rw [itemEvents_congr model h]
  case catalog title sections =>
    simp only [Kind.entries] at hentries
    simp only [List.flatMap_map]
    rw [optional_congr h, List.flatMap_congr hentries]
  case expression id element index => rw [optional_congr h]
  -- the other layers are blocks around their nodes
  all_goals rw [all_congr h]

end Congr

/-! ## The nodes that are shown -/

namespace Kind

/-- Whether a layer is drawn, if it is not deleted. -/
def isShown {α : Type} : Kind α → Bool
  | sect _ _ _ contents _ => !contents.isEmpty
  | tableCell _ rowSpan colSpan => rowSpan.getD 1 != 0 && colSpan.getD 1 != 0
  | _ => true

@[simp] theorem isShown_map {α β : Type} (f : α → β) (kind : Kind α) :
    (kind.map f).isShown = kind.isShown := by
  cases kind <;> simp [map, isShown]

end Kind

theorem layerEvents_of_isShown_eq_false {head : Head} {kind : Kind (Doc × Drawing)}
    (h : kind.isShown = false) (inherited : Option Inherited) :
    layerEvents head kind inherited = [] := by
  cases kind with
  | sect level anchor title contents model =>
    cases contents with
    | nil => rfl
    | cons child contents => exact absurd h (by simp [Kind.isShown])
  | tableCell element rowSpan colSpan =>
    have hcovered : rowSpan.getD 1 = 0 ∨ colSpan.getD 1 = 0 := by
      simpa [Kind.isShown, Classical.or_iff_not_imp_left] using h
    exact if_pos hcovered
  | _ => exact absurd h (by simp [Kind.isShown])

/-- The nodes that are drawn as themselves, in document order. -/
def shown : Doc → List Doc :=
  para fun head kind =>
    if head.flags.isDeleted || !kind.isShown then []
    else node head (kind.map Prod.fst) :: kind.children.flatMap Prod.snd

theorem shown_node (head : Head) (kind : Kind Doc) :
    (node head kind).shown =
      if head.flags.isDeleted || !kind.isShown then []
      else node head kind :: kind.children.flatMap shown := by
  rw [shown, para_node, Kind.map_fst_pair, Kind.children_map, List.flatMap_map, Kind.isShown_map]

/-- **What is shown is met by a walk**, in the same order. -/
theorem shown_sublist_live (doc : Doc) : doc.shown.Sublist doc.live := by
  induction doc using induct with
  | step head kind ih =>
    rw [shown_node, live_node]
    cases hlive : head.flags.isDeleted with
    | true => exact List.nil_sublist _
    | false =>
      cases hshown : kind.isShown with
      | false => exact List.nil_sublist _
      | true =>
        have hchildren : (kind.children.flatMap shown).Sublist (kind.children.flatMap live) :=
          List.Sublist.flatMap_right _ fun child hchild => ih child (Kind.mem_nodes.2 (.inl hchild))
        exact hchildren.cons_cons _

theorem mem_live_of_mem_shown {doc node' : Doc} (h : node' ∈ doc.shown) : node' ∈ doc.live :=
  doc.shown_sublist_live.subset h

/-! ## Sections and entries that are entered -/

/-- Whether a block is a section or an entry that points to one. -/
def Block.isLink : Block → Bool
  | sect .. => true
  | catalogEntry .. => true
  | _ => false

/-- The block of a section. -/
def Kind.section? {α : Type} : Kind α → Option Block
  | sect level anchor _ _ _ => some (.sect level anchor)
  | _ => none

/-- What a layer hands on to the nodes in it. -/
def handedOn {α : Type} (head : Head) (kind : Kind α) (inherited : Option Inherited) :
    Option Inherited :=
  match kind with
  | .span _ text => some (Inherited.ofSpan head.styles text inherited)
  | _ => none

section Enter

variable {event : Event} {docs : List Doc} {doc? : Option Doc}

theorem mem_all : event ∈ Drawing.all ((docs.map withDrawing).map Prod.snd) ↔
    ∃ doc ∈ docs, event ∈ doc.drawing.events none := by
  rw [Drawing.all, List.map_map, List.flatMap_map, List.mem_flatMap]
  rfl

theorem mem_optional : event ∈ Drawing.optional ((doc?.map withDrawing).map Prod.snd) ↔
    ∃ doc ∈ doc?.toList, event ∈ doc.drawing.events none := by
  cases doc? with
  | none => simp [Drawing.optional]
  | some doc =>
    simp only [Option.toList_some, List.mem_singleton, exists_eq_left]
    rfl

variable {block : Block} {styles : List Style}

theorem enter_mem_within {outer : Block} {outerStyles : List Style} {events : List Event} :
    .enter block styles ∈ within outer outerStyles events ↔
      (block = outer ∧ styles = outerStyles) ∨ .enter block styles ∈ events := by
  simp [within]

variable (hblock : block.isLink = true)

include hblock

/-- A block of another sort around some events does not matter. -/
theorem enter_mem_within_of_isLink_eq_false {outer : Block} {outerStyles : List Style}
    {events : List Event} (houter : outer.isLink = false) :
    .enter block styles ∈ within outer outerStyles events ↔ .enter block styles ∈ events := by
  rw [enter_mem_within, or_iff_right]
  rintro ⟨rfl, -⟩
  rw [hblock] at houter
  exact Bool.noConfusion houter

theorem enter_mem_optionalWithin {outer : Block} (houter : outer.isLink = false) :
    .enter block styles ∈ Drawing.optionalWithin outer ((doc?.map withDrawing).map Prod.snd) ↔
      ∃ doc ∈ doc?.toList, .enter block styles ∈ doc.drawing.events none := by
  cases doc? with
  | none => simp [Drawing.optionalWithin]
  | some doc =>
    refine (enter_mem_within_of_isLink_eq_false hblock houter).trans ?_
    simp only [Option.toList_some, List.mem_singleton, exists_eq_left]
    rfl

theorem enter_mem_headerEvents :
    .enter block styles ∈ headerEvents ((docs.map withDrawing).map Prod.snd) ↔
      ∃ doc ∈ docs, .enter block styles ∈ doc.drawing.events none := by
  cases docs with
  | nil => simp [headerEvents]
  | cons doc docs => exact (enter_mem_within_of_isLink_eq_false hblock rfl).trans mem_all

theorem enter_mem_itemEvents (model : ListModel) :
    .enter block styles ∈ itemEvents model (docs.map withDrawing) ↔
      ∃ doc ∈ docs, .enter block styles ∈ doc.drawing.events none := by
  rw [itemEvents_eq, List.mem_flatMap]
  constructor
  · rintro ⟨item, hitem, hevent⟩
    rw [enter_mem_within_of_isLink_eq_false hblock rfl] at hevent
    exact ⟨item.1, (List.mem_filter.1 (List.fst_mem_of_mem_zipIdx hitem)).1, hevent⟩
  · rintro ⟨doc, hdoc, hevent⟩
    -- a deleted element would have no events
    have hlive : (!doc.isDeleted) = true := by
      cases hdeleted : doc.isDeleted with
      | false => rfl
      | true =>
        rw [events_of_isDeleted hdeleted] at hevent
        exact absurd hevent List.not_mem_nil
    have hmem : doc ∈ docs.filter fun doc => !doc.isDeleted := List.mem_filter.2 ⟨hdoc, hlive⟩
    obtain ⟨i, hi⟩ := List.getElem?_of_mem hmem
    exact ⟨(doc, i), List.mk_mem_zipIdx_iff_getElem?.2 hi,
      (enter_mem_within_of_isLink_eq_false hblock rfl).2 hevent⟩

/-- **What a layer enters**: its own section, what the nodes in it enter, and what its entries
enter. -/
theorem enter_mem_layerEvents (head : Head) (kind : Kind Doc) (inherited : Option Inherited) :
    .enter block styles ∈ layerEvents head (kind.map withDrawing) inherited ↔
      kind.isShown = true ∧
        ((kind.section? = some block ∧ styles = effectiveStyles head.styles kind.nodeKind) ∨
          (∃ child ∈ kind.children,
            .enter block styles ∈ child.drawing.events (handedOn head kind inherited)) ∨
          ∃ entry ∈ kind.entries, .enter block styles ∈ entry.drawing.entry) := by
  cases kind <;>
    simp only [Kind.map, layerEvents, Kind.isShown, Kind.section?, Kind.children, Kind.entries,
      handedOn, Kind.nodeKind, List.not_mem_nil, false_and, exists_false, or_false, true_and,
      reduceCtorEq, false_or, List.isEmpty_map]
  case document header contents footer =>
    rw [enter_mem_within_of_isLink_eq_false hblock rfl, List.mem_append, List.mem_append,
      enter_mem_optionalWithin hblock (rfl : Block.header.isLink = false), mem_all,
      enter_mem_optionalWithin hblock (rfl : Block.footer.isLink = false)]
    simp only [List.mem_append, or_and_right, exists_or]
  case span spans text =>
    cases spans with
    | nil => simp
    | cons child spans => simp [withDrawing]
  case sect level anchor title contents model =>
    cases contents with
    | nil => simp
    | cons child contents =>
      simp only [List.isEmpty_cons, Bool.false_eq_true, if_false, Bool.not_false, true_and]
      rw [enter_mem_within, List.mem_append, mem_all, mem_optional]
      simp only [List.mem_append, or_and_right, exists_or, Option.some.injEq]
      exact or_congr (and_congr eq_comm Iff.rfl) Iff.rfl
  case table headers rows =>
    rw [enter_mem_within_of_isLink_eq_false hblock rfl]
    simp only [List.mem_append, enter_mem_headerEvents hblock, mem_all, or_and_right, exists_or]
  case tableCell element rowSpan colSpan =>
    unfold cellEvents
    split
    · next hcovered =>
      have hhidden : ¬ ((rowSpan.getD 1 != 0 && colSpan.getD 1 != 0) = true) := by
        simpa [Classical.or_iff_not_imp_left] using hcovered
      simp [hhidden]
    · next hcovered =>
      have hshown : (rowSpan.getD 1 != 0 && colSpan.getD 1 != 0) = true := by
        simpa [not_or] using hcovered
      rw [enter_mem_within_of_isLink_eq_false hblock rfl, mem_optional, and_iff_right hshown]
  case list elements model =>
    rw [enter_mem_within_of_isLink_eq_false hblock rfl, enter_mem_itemEvents hblock]
  case image => simp
  case line => simp
  case catalog title sections =>
    rw [enter_mem_within_of_isLink_eq_false hblock rfl, List.mem_append, mem_optional,
      List.flatMap_map, List.mem_flatMap]
    rfl
  case expression id element index =>
    rw [enter_mem_within_of_isLink_eq_false hblock rfl, mem_optional]
  -- the other layers are blocks around their nodes
  all_goals first | rw [enter_mem_within_of_isLink_eq_false hblock rfl, mem_all] | simp

/-- **Which sections and entries are entered in the drawing of a document**: the sections that are
shown, and what the entries of the nodes that are shown enter.  It does not matter what a span has
handed on to the document. -/
theorem enter_mem_events_iff (doc : Doc) (inherited : Option Inherited) :
    .enter block styles ∈ doc.drawing.events inherited ↔
      ∃ met ∈ doc.shown, (met.kind.section? = some block ∧ styles = met.styles) ∨
        ∃ entry ∈ met.kind.entries, .enter block styles ∈ entry.drawing.entry := by
  induction doc using induct generalizing inherited with
  | step head kind ih =>
    rw [events_node, shown_node]
    cases hlive : head.flags.isDeleted with
    | true => simp
    | false =>
      have hbelow (inherited : Option Inherited) :
          (∃ child ∈ kind.children, .enter block styles ∈ child.drawing.events inherited) ↔
            ∃ met ∈ kind.children.flatMap shown,
              (met.kind.section? = some block ∧ styles = met.styles) ∨
                ∃ entry ∈ met.kind.entries, .enter block styles ∈ entry.drawing.entry := by
        simp only [List.mem_flatMap]
        constructor
        · rintro ⟨child, hchild, hevent⟩
          obtain ⟨met, hmet, h⟩ := (ih child (Kind.mem_nodes.2 (Or.inl hchild)) _).1 hevent
          exact ⟨met, ⟨child, hchild, hmet⟩, h⟩
        · rintro ⟨met, ⟨child, hchild, hmet⟩, h⟩
          exact ⟨child, hchild, (ih child (Kind.mem_nodes.2 (Or.inl hchild)) _).2 ⟨met, hmet, h⟩⟩
      rw [if_neg Bool.false_ne_true, enter_mem_layerEvents hblock, hbelow]
      cases hshown : kind.isShown with
      | false => simp
      | true =>
        simp only [true_and, Bool.not_true, Bool.or_self, Bool.false_eq_true, if_false,
          List.mem_cons, exists_eq_or_imp]
        rw [← or_assoc, or_right_comm]
        rfl

omit hblock in
/-- What a node enters as an entry of a catalog: its own entry and what its title enters, if it is a
section with one. -/
theorem enter_mem_entry_sect {head : Head} {level : Option Int32} {anchor : Option String}
    {title? : Option Doc} {contents : List Doc} {model : Option ListModel}
    (h : .enter block styles ∈
      (node head (.sect level anchor title? contents model)).drawing.entry) :
    block = .catalogEntry level anchor ∨
      ∃ title ∈ title?, .enter block styles ∈ title.drawing.events none := by
  rw [entry_node] at h
  cases title? with
  | none => exact absurd h List.not_mem_nil
  | some title =>
    rcases enter_mem_within.1 h with ⟨hown, -⟩ | h
    · exact Or.inl hown
    · exact Or.inr ⟨title, rfl, h⟩

end Enter

end Doc

end Bindery
