import Bindery.Proofs.Doc.Drawing

/-!
# Drawings nest

A surface that keeps a stack of the blocks that are open can take any drawing: what is left is
always the block that was entered last, and in the end nothing is open (`balanced_events`).

The events of a drawing are made of blocks inside each other and of single events between them, one
for each *leaf* of the document that is drawn: a span without spans, an image, a line or a page
break (`Nests`).  Which leaves these are is said by going through the document in the same way for
all kinds of nodes (`leaves`), and the blocks are all that the kinds differ in (`nests_drawing`).
-/

namespace Bindery

namespace Doc

/-! ## Open blocks -/

/-- The blocks that are open after an event, the innermost one first.  There is no answer if the
event leaves another block than the innermost one. -/
def Event.openAfter? (opened : List Block) : Event → Option (List Block)
  | enter block _ => some (block :: opened)
  | leave block =>
    match opened with
    | [] => none
    | innermost :: outer => if block = innermost then some outer else none
  | _ => some opened

/-- The blocks that are open after some events. -/
def openAfter? (opened : List Block) (events : List Event) : Option (List Block) :=
  events.foldlM Event.openAfter? opened

theorem openAfter?_cons (opened : List Block) (event : Event) (events : List Event) :
    openAfter? opened (event :: events) =
      (event.openAfter? opened).bind fun opened => openAfter? opened events :=
  List.foldlM_cons

theorem openAfter?_append (opened : List Block) (events events' : List Event) :
    openAfter? opened (events ++ events') =
      (openAfter? opened events).bind fun opened => openAfter? opened events' :=
  List.foldlM_append

/-- A block with nested events inside is left again. -/
theorem openAfter?_within {opened : List Block} {block : Block} {inside : List Event}
    (styles : List Style) (h : openAfter? (block :: opened) inside = some (block :: opened)) :
    openAfter? opened (within block styles inside) = some opened := by
  have hleave : Event.openAfter? (block :: opened) (.leave block) = some opened := if_pos rfl
  rw [within, List.cons_append, openAfter?_cons, Event.openAfter?, Option.bind_some,
    openAfter?_append, h, Option.bind_some, openAfter?_cons, hleave]
  rfl

/-- What is left is the block that was entered last. -/
theorem exists_of_openAfter?_leave {opened opened' : List Block} {block : Block}
    {events events' : List Event}
    (h : openAfter? opened (events ++ .leave block :: events') = some opened') :
    ∃ outer, openAfter? opened events = some (block :: outer) := by
  rw [openAfter?_append] at h
  obtain ⟨between, hbetween, h⟩ := Option.bind_eq_some_iff.1 h
  rw [openAfter?_cons] at h
  obtain ⟨after, hafter, -⟩ := Option.bind_eq_some_iff.1 h
  cases between with
  | nil => exact absurd hafter (by simp [Event.openAfter?])
  | cons innermost outer =>
    rw [Event.openAfter?] at hafter
    split at hafter
    · next hblock => exact ⟨outer, hblock ▸ hbetween⟩
    · exact absurd hafter (by simp)

/-! ## Blocks inside each other -/

/-- The single event that a leaf is drawn by. -/
inductive Event.Draws : Event → Doc → Prop
  | text {head : Head} {text : SpanText} (script : Script) (styles : List Style) :
    Draws (.text (text.run script) styles) (.node head (.span [] text))
  | image {head : Head} {source : Option String} (styles : List Style) :
    Draws (.image source styles) (.node head (.image source))
  | line {head : Head} {line : Line} (styles : List Style) :
    Draws (.line line styles) (.node head (.line line))
  | pageBreak {head : Head} : Draws .pageBreak (.node head .pageBreak)

/-- Events in which blocks are nested, with the leaves that the other events draw. -/
inductive Nests : List Event → List Doc → Prop
  | nil : Nests [] []
  | leaf {event : Event} {leaf : Doc} {events : List Event} {leaves : List Doc}
    (hleaf : event.Draws leaf) (h : Nests events leaves) : Nests (event :: events) (leaf :: leaves)
  | block {inside events : List Event} {leaves leaves' : List Doc} (block : Block)
    (styles : List Style) (hinside : Nests inside leaves) (h : Nests events leaves') :
    Nests (Doc.within block styles inside ++ events) (leaves ++ leaves')

namespace Nests

variable {events events' : List Event} {leaves leaves' : List Doc}

theorem append (h : Nests events leaves) (h' : Nests events' leaves') :
    Nests (events ++ events') (leaves ++ leaves') := by
  induction h with
  | nil => exact h'
  | leaf hleaf _ ih => exact .leaf hleaf ih
  | block block styles hinside _ _ ih =>
    rw [List.append_assoc, List.append_assoc]
    exact .block block styles hinside ih

theorem flatMap {α : Type} {items : List α} {f : α → List Event} {g : α → List Doc}
    (h : ∀ item ∈ items, Nests (f item) (g item)) : Nests (items.flatMap f) (items.flatMap g) := by
  induction items with
  | nil => exact nil
  | cons item items ih =>
    rw [List.forall_mem_cons] at h
    exact h.1.append (ih h.2)

theorem within (h : Nests events leaves) (block : Block) (styles : List Style) :
    Nests (Doc.within block styles events) leaves := by
  have hblock := Nests.block block styles h nil
  rwa [List.append_nil, List.append_nil] at hblock

theorem singleton {event : Event} {leaf : Doc} (h : event.Draws leaf) : Nests [event] [leaf] :=
  .leaf h nil

/-- **Nested events leave open what was open.** -/
theorem openAfter? (h : Nests events leaves) (opened : List Block) :
    openAfter? opened events = some opened := by
  induction h generalizing opened with
  | nil => rfl
  | leaf hleaf _ ih =>
    rw [openAfter?_cons]
    cases hleaf <;> exact ih opened
  | block block styles _ _ ihinside ih =>
    rw [openAfter?_append, openAfter?_within styles (ihinside (block :: opened))]
    exact ih opened

end Nests

/-! ## Drawn leaves -/

/-- Whether a layer is drawn by a single event. -/
def Kind.isLeaf {α : Type} : Kind α → Bool
  | span spans _ => spans.isEmpty
  | image _ => true
  | line _ => true
  | pageBreak => true
  | _ => false

/-- The leaves that are drawn for a node in each of its roles. -/
structure Leaves where
  /-- As itself. -/
  own : List Doc
  /-- As an entry of a catalog. -/
  entry : List Doc

/-- The leaves of a layer, given those of its nodes. -/
def leavesLayer (head : Head) (kind : Kind (Doc × Leaves)) : Leaves where
  own :=
    if head.flags.isDeleted || !kind.isShown then []
    else if kind.isLeaf then [node head (kind.map Prod.fst)]
    else kind.children.flatMap (·.2.own) ++ kind.entries.flatMap (·.2.entry)
  entry :=
    match kind with
    | .sect _ _ (some title) _ _ => title.2.own
    | _ => []

/-- The leaves that are drawn for a document, in the order of the drawing. -/
def leaves : Doc → Leaves :=
  para leavesLayer

theorem own_leaves_node (head : Head) (kind : Kind Doc) :
    (node head kind).leaves.own =
      if head.flags.isDeleted || !kind.isShown then []
      else if kind.isLeaf then [node head kind]
      else kind.children.flatMap (·.leaves.own) ++ kind.entries.flatMap (·.leaves.entry) := by
  have hleaf : (kind.map fun doc => (doc, doc.leaves)).isLeaf = kind.isLeaf := by
    cases kind <;> simp [Kind.map, Kind.isLeaf]
  rw [leaves, para_node]
  dsimp only [leavesLayer]
  rw [← leaves, Kind.isShown_map, hleaf, Kind.map_fst_pair, Kind.children_map, Kind.entries_map,
    List.flatMap_map, List.flatMap_map]

theorem own_leaves_of_isDeleted {doc : Doc} (h : doc.isDeleted = true) : doc.leaves.own = [] := by
  obtain ⟨head, kind⟩ := doc
  rw [own_leaves_node]
  exact if_pos (Bool.or_eq_true_iff.2 (Or.inl h))

/-- In both of its roles, the drawing of a node nests and draws its leaves. -/
structure NestsInBoth (doc : Doc) : Prop where
  events : ∀ inherited, Nests (doc.drawing.events inherited) doc.leaves.own
  entry : Nests doc.drawing.entry doc.leaves.entry

section Layer

variable {docs : List Doc} {doc? : Option Doc}

theorem nests_all (h : ∀ doc ∈ docs, doc.NestsInBoth) :
    Nests (Drawing.all ((docs.map withDrawing).map Prod.snd)) (docs.flatMap (·.leaves.own)) := by
  simp only [Drawing.all, List.flatMap_map]
  exact Nests.flatMap fun doc hdoc => (h doc hdoc).events none

theorem nests_optional (h : ∀ doc ∈ doc?.toList, doc.NestsInBoth) :
    Nests (Drawing.optional ((doc?.map withDrawing).map Prod.snd))
      (doc?.toList.flatMap (·.leaves.own)) := by
  cases doc? with
  | none => exact Nests.nil
  | some doc =>
    rw [Option.toList_some, List.flatMap_singleton]
    exact (h doc (List.mem_singleton_self doc)).events none

theorem nests_optionalWithin (block : Block) (h : ∀ doc ∈ doc?.toList, doc.NestsInBoth) :
    Nests (Drawing.optionalWithin block ((doc?.map withDrawing).map Prod.snd))
      (doc?.toList.flatMap (·.leaves.own)) := by
  cases doc? with
  | none => exact Nests.nil
  | some doc =>
    rw [Option.toList_some, List.flatMap_singleton]
    exact ((h doc (List.mem_singleton_self doc)).events none).within block []

theorem nests_headerEvents (h : ∀ doc ∈ docs, doc.NestsInBoth) :
    Nests (headerEvents ((docs.map withDrawing).map Prod.snd))
      (docs.flatMap (·.leaves.own)) := by
  cases docs with
  | nil => exact Nests.nil
  | cons doc docs => exact (nests_all h).within .tableHeader []

/-- The elements of a list that are deleted have no leaves that are drawn. -/
theorem nests_itemEvents (model : ListModel) (h : ∀ doc ∈ docs, doc.NestsInBoth) :
    Nests (itemEvents model (docs.map withDrawing)) (docs.flatMap (·.leaves.own)) := by
  rw [itemEvents_eq, ← flatMap_items (fun _ => own_leaves_of_isDeleted) docs]
  refine Nests.flatMap fun item hitem => ?_
  have hmem := (List.mem_filter.1 (List.fst_mem_of_mem_zipIdx hitem)).1
  exact ((h item.1 hmem).events none).within _ _

/-- **A layer nests** if the nodes in it do: it is a leaf, or a block around its nodes and entries,
or nothing but its nodes. -/
theorem nests_layerEvents (head : Head) {kind : Kind Doc} (inherited : Option Inherited)
    (hshown : kind.isShown = true) (h : ∀ child ∈ kind.children, child.NestsInBoth)
    (hentries : ∀ entry ∈ kind.entries, entry.NestsInBoth) :
    Nests (layerEvents head (kind.map withDrawing) inherited)
      (if kind.isLeaf then [node head kind]
        else kind.children.flatMap (·.leaves.own) ++ kind.entries.flatMap (·.leaves.entry)) := by
  cases kind <;> simp only [Kind.children, List.forall_mem_append] at h <;>
    simp only [Kind.map, layerEvents, Kind.isLeaf, Kind.children, Kind.entries, Kind.nodeKind,
      List.isEmpty_map, List.flatMap_append, List.flatMap_nil, List.append_nil, if_true,
      Bool.false_eq_true, if_false]
  case document header contents footer =>
    exact (((nests_optionalWithin .header h.1.1).append (nests_all h.1.2)).append
      (nests_optionalWithin .footer h.2)).within _ _
  case span spans text =>
    cases spans with
    | nil => exact Nests.singleton (.text _ _)
    | cons child spans =>
      rw [List.isEmpty_cons, if_neg Bool.false_ne_true, if_neg Bool.false_ne_true, List.flatMap_map]
      exact Nests.flatMap fun doc hdoc => (h doc hdoc).events _
  case sect level anchor title contents model =>
    cases contents with
    | nil => exact absurd hshown Bool.false_ne_true
    | cons child contents => exact ((nests_optional h.1).append (nests_all h.2)).within _ _
  case table headers rows => exact ((nests_headerEvents h.1).append (nests_all h.2)).within _ _
  case tableCell element rowSpan colSpan =>
    have huncovered : rowSpan.getD 1 ≠ 0 ∧ colSpan.getD 1 ≠ 0 := by
      simpa only [Kind.isShown, Bool.and_eq_true, bne_iff_ne] using hshown
    rw [cellEvents, if_neg (not_or.2 huncovered)]
    exact (nests_optional h).within _ _
  case list elements model => exact (nests_itemEvents model h).within _ _
  case image source => exact Nests.singleton (.image _)
  case line line => exact Nests.singleton (.line _)
  case pageBreak => exact Nests.singleton .pageBreak
  case catalog title sections =>
    rw [List.flatMap_map]
    exact ((nests_optional h).append
      (Nests.flatMap fun entry hentry => (hentries entry hentry).entry)).within _ _
  case expression id element index => exact (nests_optional h).within _ _
  -- the other layers are blocks around their nodes
  all_goals exact (nests_all h).within _ _

end Layer

/-- **Drawings nest**, and between the blocks they draw the leaves. -/
theorem nests_drawing (doc : Doc) : doc.NestsInBoth := by
  induction doc using induct with
  | step head kind ih =>
    have hchildren : ∀ child ∈ kind.children, child.NestsInBoth :=
      fun child hchild => ih child (Kind.mem_nodes.2 (Or.inl hchild))
    have hentries : ∀ entry ∈ kind.entries, entry.NestsInBoth :=
      fun entry hentry => ih entry (Kind.mem_nodes.2 (Or.inr hentry))
    refine ⟨fun inherited => ?_, ?_⟩
    · rw [events_node, own_leaves_node]
      cases hdeleted : head.flags.isDeleted with
      | true => exact Nests.nil
      | false =>
        rw [if_neg Bool.false_ne_true]
        cases hshown : kind.isShown with
        | true => exact nests_layerEvents head inherited hshown hchildren hentries
        | false =>
          rw [layerEvents_of_isShown_eq_false (by rw [Kind.isShown_map, hshown])]
          exact Nests.nil
    · rw [entry_node, leaves, para_node]
      cases kind with
      | sect level anchor title contents model =>
        cases title with
        | none => exact Nests.nil
        | some title =>
          have htitle := hchildren title (by simp [Kind.children])
          exact (htitle.events none).within (.catalogEntry level anchor) []
      | _ => exact Nests.nil

/-- **Every block that is left is the one that was entered last**, and in the end no block is
open. -/
theorem balanced_events (doc : Doc) :
    openAfter? [] doc.events = some [] ∧
      ∀ before block after, doc.events = before ++ .leave block :: after →
        ∃ outer, openAfter? [] before = some (block :: outer) := by
  have hnests : openAfter? [] doc.events = some [] := (doc.nests_drawing.events none).openAfter? []
  refine ⟨hnests, fun before block after h => ?_⟩
  rw [h] at hnests
  exact exists_of_openAfter?_leave hnests

end Doc

end Bindery
