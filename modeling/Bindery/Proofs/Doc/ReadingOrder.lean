import Bindery.Proofs.Doc.Drawing
import Bindery.Proofs.Doc.Numbering

/-!
# Expressions in reading order

Expressions are numbered in document order, but a reader meets them in the order of the drawing.
The two orders come from two ways through the tree, and the drawing leaves things out: sections
without contents with their titles, cells whose places are covered, and all that a catalog repeats
from elsewhere.  Here it is shown that what a reader meets is in order nevertheless.

`readingIndices` reads the numbers off the events themselves.  Since a title can hold a catalog of
its own, entries of catalogs can stand inside each other, so reading keeps account of how deep
inside of entries it is.  What is drawn leaves this depth as it was and has the same numbers at any
place that is not inside of an entry (`Reads`).  For a whole document these are the numbers of the
expressions that are shown (`reads_drawing`), and the nodes that are shown are some of the live ones
in the same order.  So the numbers of a numbered document ascend (`IsNumbered.readingIndices`).
-/

namespace Bindery

namespace Doc

/-! ## Reading numbers off events -/

/-- The number of an expression. -/
def Block.index? : Block → Option UInt32
  | expression index => some index
  | _ => none

/-- Whether a block is an entry of a catalog. -/
def Block.isEntry : Block → Bool
  | catalogEntry .. => true
  | _ => false

/-- The number of an expression that is entered. -/
def Event.index? : Event → Option UInt32
  | enter block _ => block.index?
  | _ => none

/-- How deep inside of entries of catalogs what follows an event is. -/
def Event.depthAfter (depth : Nat) : Event → Nat
  | enter block _ => if block.isEntry then depth + 1 else depth
  | leave block => if block.isEntry then depth - 1 else depth
  | _ => depth

/-- The numbers of the expressions that are entered and are not inside of an entry of a catalog, in
the order of the events, of which the first is inside of so many entries. -/
def readingIndices (depth : Nat) : List Event → List UInt32
  | [] => []
  | event :: events =>
    let later := readingIndices (event.depthAfter depth) events
    if depth = 0 then event.index?.toList ++ later else later

/-- **What is read in a drawing**, wherever it stands: the same numbers unless it is inside of an
entry, and then none.  The depth is afterwards what it was before. -/
structure Reads (events : List Event) (indices : List UInt32) : Prop where
  outside : ∀ later, readingIndices 0 (events ++ later) = indices ++ readingIndices 0 later
  inside : ∀ depth later,
    readingIndices (depth + 1) (events ++ later) = readingIndices (depth + 1) later

namespace Reads

variable {events events' : List Event} {indices indices' : List UInt32} {block : Block}

theorem nil : Reads [] [] where
  outside _ := rfl
  inside _ _ := rfl

theorem append (h : Reads events indices) (h' : Reads events' indices') :
    Reads (events ++ events') (indices ++ indices') where
  outside later := by rw [List.append_assoc, h.outside, h'.outside, List.append_assoc]
  inside depth later := by rw [List.append_assoc, h.inside, h'.inside]

theorem flatMap {α : Type} {items : List α} {f : α → List Event} {g : α → List UInt32}
    (h : ∀ item ∈ items, Reads (f item) (g item)) : Reads (items.flatMap f) (items.flatMap g) := by
  induction items with
  | nil => exact nil
  | cons item items ih =>
    rw [List.forall_mem_cons] at h
    exact h.1.append (ih h.2)

/-- An event that neither enters nor leaves a block. -/
theorem singleton {event : Event} (hindex : event.index? = none)
    (hdepth : ∀ depth, event.depthAfter depth = depth) : Reads [event] [] where
  outside later := by
    rw [List.singleton_append, readingIndices, hdepth, hindex]
    rfl
  inside depth later := by
    rw [List.singleton_append, readingIndices, hdepth]
    rfl

/-- A block has its own number before those inside, if it is not an entry. -/
theorem within (hblock : block.isEntry = false) (styles : List Style) (h : Reads events indices) :
    Reads (within block styles events) (block.index?.toList ++ indices) where
  outside later := by
    show readingIndices 0 (.enter block styles :: (events ++ [.leave block] ++ later)) = _
    simp only [readingIndices, Event.depthAfter, Event.index?, hblock, Bool.false_eq_true, if_false,
      if_true, List.append_assoc, h.outside, List.singleton_append, Option.toList_none,
      List.nil_append]
  inside depth later := by
    show readingIndices (depth + 1) (.enter block styles :: (events ++ [.leave block] ++ later)) = _
    simp only [readingIndices, Event.depthAfter, hblock, Bool.false_eq_true, if_false,
      Nat.succ_ne_zero, List.append_assoc, h.inside, List.singleton_append]

/-- **Nothing is read inside of an entry.** -/
theorem within_entry (level : Option Int32) (anchor : Option String) (styles : List Style)
    (h : Reads events indices) :
    Reads (Doc.within (.catalogEntry level anchor) styles events) [] where
  outside later := by
    show readingIndices 0
      (.enter (.catalogEntry level anchor) styles ::
        (events ++ [.leave (.catalogEntry level anchor)] ++ later)) = _
    rw [List.append_assoc, readingIndices]
    show readingIndices 1 _ = _
    rw [h.inside 0]
    rfl
  inside depth later := by
    show readingIndices (depth + 1)
      (.enter (.catalogEntry level anchor) styles ::
        (events ++ [.leave (.catalogEntry level anchor)] ++ later)) = _
    rw [List.append_assoc, readingIndices]
    show readingIndices (depth + 1 + 1) _ = _
    rw [h.inside (depth + 1)]
    rfl

/-- What is read in a drawing that stands alone. -/
theorem readingIndices_eq (h : Reads events indices) : readingIndices 0 events = indices := by
  have houtside := h.outside []
  rwa [List.append_nil, readingIndices, List.append_nil] at houtside

end Reads

/-! ## What is read in a document -/

/-- The numbers of the expressions that are shown, in document order. -/
def shownIndices (doc : Doc) : List UInt32 :=
  doc.shown.filterMap expressionIndex?

/-- What is read in the drawing of a node, in each of its roles. -/
structure ReadsInBoth (doc : Doc) : Prop where
  events : ∀ inherited, Reads (doc.drawing.events inherited) doc.shownIndices
  entry : Reads doc.drawing.entry []

theorem shownIndices_node (head : Head) (kind : Kind Doc) :
    (node head kind).shownIndices =
      if head.flags.isDeleted || !kind.isShown then []
      else (node head kind).expressionIndex?.toList ++ kind.children.flatMap shownIndices := by
  rw [shownIndices, shown_node]
  split
  · rfl
  · rw [List.filterMap_cons, List.filterMap_flatMap]
    cases (node head kind).expressionIndex? <;> rfl

theorem shownIndices_of_isDeleted {doc : Doc} (h : doc.isDeleted = true) :
    doc.shownIndices = [] := by
  obtain ⟨head, kind⟩ := doc
  rw [shownIndices_node]
  exact if_pos (Bool.or_eq_true_iff.2 (Or.inl h))

section Layer

variable {docs : List Doc} {doc? : Option Doc}

theorem reads_all (h : ∀ doc ∈ docs, doc.ReadsInBoth) :
    Reads (Drawing.all ((docs.map withDrawing).map Prod.snd)) (docs.flatMap shownIndices) := by
  simp only [Drawing.all, List.flatMap_map]
  exact Reads.flatMap fun doc hdoc => (h doc hdoc).events none

theorem reads_optional (h : ∀ doc ∈ doc?.toList, doc.ReadsInBoth) :
    Reads (Drawing.optional ((doc?.map withDrawing).map Prod.snd))
      (doc?.toList.flatMap shownIndices) := by
  cases doc? with
  | none => exact Reads.nil
  | some doc =>
    have hdoc : doc ∈ (some doc).toList := List.mem_singleton_self doc
    rw [Option.toList_some, List.flatMap_singleton]
    exact (h doc hdoc).events none

theorem reads_optionalWithin {block : Block} (hblock : block.isEntry = false)
    (hindex : block.index? = none) (h : ∀ doc ∈ doc?.toList, doc.ReadsInBoth) :
    Reads (Drawing.optionalWithin block ((doc?.map withDrawing).map Prod.snd))
      (doc?.toList.flatMap shownIndices) := by
  cases doc? with
  | none => exact Reads.nil
  | some doc =>
    have hdoc : doc ∈ (some doc).toList := List.mem_singleton_self doc
    have hreads := ((h doc hdoc).events none).within hblock []
    rw [hindex] at hreads
    rw [Option.toList_some, List.flatMap_singleton]
    exact hreads

theorem reads_headerEvents (h : ∀ doc ∈ docs, doc.ReadsInBoth) :
    Reads (headerEvents ((docs.map withDrawing).map Prod.snd)) (docs.flatMap shownIndices) := by
  cases docs with
  | nil => exact Reads.nil
  | cons doc docs => exact (reads_all h).within rfl []

/-- The elements of a list that are deleted have no numbers that are shown. -/
theorem reads_itemEvents (model : ListModel) (h : ∀ doc ∈ docs, doc.ReadsInBoth) :
    Reads (itemEvents model (docs.map withDrawing)) (docs.flatMap shownIndices) := by
  rw [itemEvents_eq, ← flatMap_items (fun _ => shownIndices_of_isDeleted) docs]
  refine Reads.flatMap fun item hitem => ?_
  have hmem := (List.mem_filter.1 (List.fst_mem_of_mem_zipIdx hitem)).1
  exact ((h item.1 hmem).events none).within rfl []

/-- **What is read in a layer**: its own number, and what is read in its nodes. -/
theorem reads_layerEvents (head : Head) {kind : Kind Doc} (inherited : Option Inherited)
    (hshown : kind.isShown = true) (h : ∀ child ∈ kind.children, child.ReadsInBoth)
    (hentries : ∀ entry ∈ kind.entries, entry.ReadsInBoth) :
    Reads (layerEvents head (kind.map withDrawing) inherited)
      ((node head kind).expressionIndex?.toList ++ kind.children.flatMap shownIndices) := by
  cases kind <;> simp only [Kind.children, List.forall_mem_append] at h <;>
    simp only [Kind.map, layerEvents, Kind.children, Kind.nodeKind, List.isEmpty_map,
      List.flatMap_append]
  case document header contents footer =>
    exact (((reads_optionalWithin rfl rfl h.1.1).append (reads_all h.1.2)).append
      (reads_optionalWithin rfl rfl h.2)).within rfl _
  case span spans text =>
    cases spans with
    | nil => exact Reads.singleton rfl fun _ => rfl
    | cons child spans =>
      rw [List.isEmpty_cons, if_neg Bool.false_ne_true, List.flatMap_map]
      exact Reads.flatMap fun doc hdoc => (h doc hdoc).events _
  case sect level anchor title contents model =>
    cases contents with
    | nil => exact absurd hshown Bool.false_ne_true
    | cons child contents => exact ((reads_optional h.1).append (reads_all h.2)).within rfl _
  case table headers rows => exact ((reads_headerEvents h.1).append (reads_all h.2)).within rfl _
  case tableCell element rowSpan colSpan =>
    have huncovered : rowSpan.getD 1 ≠ 0 ∧ colSpan.getD 1 ≠ 0 := by
      simpa only [Kind.isShown, Bool.and_eq_true, bne_iff_ne] using hshown
    rw [cellEvents, if_neg (not_or.2 huncovered)]
    exact (reads_optional h).within rfl _
  case list elements model => exact (reads_itemEvents model h).within rfl _
  case image => exact Reads.singleton rfl fun _ => rfl
  case line => exact Reads.singleton rfl fun _ => rfl
  case pageBreak => exact Reads.singleton rfl fun _ => rfl
  case catalog title sections =>
    have hsections : Reads (sections.flatMap fun entry => entry.drawing.entry)
        (sections.flatMap fun _ => []) :=
      Reads.flatMap fun entry hentry => (hentries entry hentry).entry
    have hreads := ((reads_optional h).append hsections).within
      (rfl : Block.catalog.isEntry = false) (effectiveStyles head.styles .catalog)
    rw [List.flatMap_eq_nil_iff.2 fun _ _ => rfl, List.append_nil] at hreads
    rw [List.flatMap_map]
    exact hreads
  case expression id element index => exact (reads_optional h).within rfl _
  -- the other layers are blocks around their nodes
  all_goals exact (reads_all h).within rfl _

end Layer

/-- **What is read in the drawing of a document** are the numbers of the expressions that are shown,
in document order. -/
theorem reads_drawing (doc : Doc) : doc.ReadsInBoth := by
  induction doc using induct with
  | step head kind ih =>
    have hchildren : ∀ child ∈ kind.children, child.ReadsInBoth :=
      fun child hchild => ih child (Kind.mem_nodes.2 (Or.inl hchild))
    have hentries : ∀ entry ∈ kind.entries, entry.ReadsInBoth :=
      fun entry hentry => ih entry (Kind.mem_nodes.2 (Or.inr hentry))
    refine ⟨fun inherited => ?_, ?_⟩
    · rw [events_node, shownIndices_node]
      cases hdeleted : head.flags.isDeleted with
      | true => exact Reads.nil
      | false =>
        rw [if_neg Bool.false_ne_true]
        cases hshown : kind.isShown with
        | true => exact reads_layerEvents head inherited hshown hchildren hentries
        | false =>
          rw [layerEvents_of_isShown_eq_false (by rw [Kind.isShown_map, hshown])]
          exact Reads.nil
    · rw [entry_node]
      cases kind with
      | sect level anchor title contents model =>
        cases title with
        | none => exact Reads.nil
        | some title =>
          have htitle := hchildren title (by simp [Kind.children])
          exact Reads.within_entry level anchor [] (htitle.events none)
      | _ => exact Reads.nil

theorem readingIndices_events (doc : Doc) :
    readingIndices 0 doc.events = doc.shown.filterMap expressionIndex? :=
  (doc.reads_drawing.events none).readingIndices_eq

/-- **The numbers that a reader meets in a numbered document** are some of the numbers from one on,
each larger than the one before. -/
theorem IsNumbered.readingIndices {doc : Doc} (h : doc.IsNumbered) :
    ∃ numbers : List Nat, numbers.Sublist (List.range' 1 (doc.live.countP isExpression)) ∧
      Doc.readingIndices 0 doc.events = numbers.map UInt32.ofNat := by
  have hsublist := doc.shown_sublist_live.filterMap expressionIndex?
  rw [h.indices, ← readingIndices_events] at hsublist
  have hlive : (List.range (doc.live.countP isExpression)).map
      (fun before => UInt32.ofNat (before + 1)) =
      (List.range' 1 (doc.live.countP isExpression)).map UInt32.ofNat := by
    rw [List.range'_eq_map_range, List.map_map]
    exact List.map_congr_left fun before _ => congrArg UInt32.ofNat (Nat.add_comm before 1)
  rw [hlive] at hsublist
  exact List.sublist_map_iff.1 hsublist

/-- Numbers that ascend still do so when they are stored, if they all have room. -/
theorem pairwise_ofNat {numbers : List Nat} (h : numbers.Pairwise (· < ·))
    (hroom : ∀ number ∈ numbers, number < UInt32.size) :
    (numbers.map UInt32.ofNat).Pairwise (· < ·) := by
  rw [List.pairwise_map]
  refine h.imp_of_mem fun {number later} hnumber hlater hlt => ?_
  rw [UInt32.lt_iff_toNat_lt, UInt32.toNat_ofNat_of_lt' (hroom number hnumber),
    UInt32.toNat_ofNat_of_lt' (hroom later hlater)]
  exact hlt

end Doc

end Bindery
