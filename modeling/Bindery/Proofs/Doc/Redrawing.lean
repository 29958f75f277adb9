import Bindery.Proofs.Doc.DrawnTexts
import Bindery.Proofs.Doc.RoundTrip
import Mathlib.Data.List.Forall2

/-!
# Drawing a document that was written and read again

Two rules about styles meet here.  A document is written with its styles in full, so that a reader
needs to know no default.  A span inside a span takes over the styles of the one around it if it has
no styles of its own.  After a document has been written and read every span has styles of its own,
so nothing is taken over any more: a text that was drawn in the styles of the span around it is
drawn in the defaults of a span.

This is all that changes.  The events before and after are the same one by one, except for the texts
that took over styles (`Way.takesOver`), and which these are is seen on the ways to them
(`Redrawn`).  So the two drawings have the same styles throughout exactly if whatever was taken over
happens to be the defaults (`Redrawn.same_iff`).

## How the proof goes

The induction is on the document (`Doc.induct`), for both roles in which a node is drawn, and it is
over all nodes that may stand around the document.  What these hand on after completing differs from
what they handed on before, but only in styles, and no span of the completed document takes those
over.  `Redrawn` passes through everything that drawing is made of: empty lists, lists one after the
other, and blocks.
-/

namespace Bindery

namespace Doc

/-! ## The same drawing -/

namespace Event

/-- The styles that come with an event. -/
def styles : Event → List Style
  | enter _ styles => styles
  | leave _ => []
  | text _ styles => styles
  | image _ styles => styles
  | line _ styles => styles
  | pageBreak => []

/-- What an event says apart from styles. -/
def unstyled : Event → Event
  | enter block _ => enter block []
  | leave block => leave block
  | text run _ => text run []
  | image source _ => image source []
  | line l _ => line l []
  | pageBreak => pageBreak

/-- Two events that say the same, with the same set of styles. -/
def Same (a b : Event) : Prop :=
  a.unstyled = b.unstyled ∧ ∀ style, style ∈ a.styles ↔ style ∈ b.styles

theorem Same.refl (event : Event) : event.Same event :=
  ⟨rfl, fun _ => Iff.rfl⟩

end Event

/-! ## Drawings after and before -/

/-- Whether an event is a text. -/
def Event.isText : Event → Bool
  | text _ _ => true
  | _ => false

/-- The text at the end of a way after the document was written and read again.  It is in the
defaults of a span if it took over styles, and as it was otherwise. -/
def Way.redrawn (way : Way) : Event :=
  .text way.spans.run (if way.takesOver then Kind.defaultStyles .span else way.spans.styles)

/-- **Events after and before**, with the ways to the texts among them.  Each text stands for the
next way, and what it is drawn by is determined by that way.  All other events are the same. -/
inductive Redrawn : List Way → List Event → List Event → Prop
  | nil : Redrawn [] [] []
  | same {event : Event} {ways : List Way} {after before : List Event}
    (hevent : event.isText = false) (h : Redrawn ways after before) :
    Redrawn ways (event :: after) (event :: before)
  | text (way : Way) {ways : List Way} {after before : List Event}
    (h : Redrawn ways after before) :
    Redrawn (way :: ways) (way.redrawn :: after) (way.spans.event :: before)

namespace Redrawn

variable {ways ways' : List Way} {after before after' before' : List Event}

/-- An event that is no text. -/
theorem of_isText {event : Event} (h : event.isText = false) : Redrawn [] [event] [event] :=
  .same h .nil

theorem append (h : Redrawn ways after before) (h' : Redrawn ways' after' before') :
    Redrawn (ways ++ ways') (after ++ after') (before ++ before') := by
  induction h with
  | nil => exact h'
  | same hevent _ ih => exact .same hevent ih
  | text way _ ih => exact .text way ih

theorem within (block : Block) (styles : List Style) (h : Redrawn ways after before) :
    Redrawn ways (within block styles after) (within block styles before) := by
  have hinside := h.append (of_isText (rfl : (Event.leave block).isText = false))
  rw [List.append_nil] at hinside
  exact .same rfl hinside

theorem flatMap {α : Type} {items : List α} {waysOf : α → List Way} {f g : α → List Event}
    (h : ∀ item ∈ items, Redrawn (waysOf item) (f item) (g item)) :
    Redrawn (items.flatMap waysOf) (items.flatMap f) (items.flatMap g) := by
  induction items with
  | nil => exact .nil
  | cons item items ih =>
    rw [List.forall_mem_cons] at h
    exact h.1.append (ih h.2)

/-- Two drawings are the same apart from the order of styles exactly if what was taken over were the
defaults. -/
theorem same_iff (h : Redrawn ways after before) :
    List.Forall₂ Event.Same after before ↔
      ∀ way ∈ ways, way.takesOver = true →
        ∀ style, style ∈ way.spans.styles ↔ style ∈ Kind.defaultStyles .span := by
  induction h with
  | nil => simp
  | same _ _ ih =>
    rw [List.forall₂_cons, ih]
    exact and_iff_right (.refl _)
  | text way _ ih =>
    rw [List.forall₂_cons, ih, List.forall_mem_cons]
    refine and_congr_left' ?_
    rw [Way.redrawn]
    cases way.takesOver with
    | true => simp [Event.Same, Event.styles, Event.unstyled, Way.event, iff_comm]
    | false => simp [Event.Same, Event.styles, Event.unstyled, Way.event]

end Redrawn

/-! ## The completed document -/

theorem isDeleted_completed (doc : Doc) : doc.completed.isDeleted = doc.isDeleted := by
  obtain ⟨head, kind⟩ := doc
  rw [completed_node]
  rfl

/-- After completing, no span takes anything over. -/
theorem effectiveStyles_span_ne_nil (styles : List Style) : effectiveStyles styles .span ≠ [] :=
  fun h => absurd (Style.merge_eq_nil h) (by simp [Kind.defaultStyles])

/-- The styles a span of the completed document hands on are its own. -/
theorem ofSpan_effectiveStyles (styles : List Style) (text : SpanText)
    (inherited : Option Inherited) :
    Inherited.ofSpan (effectiveStyles styles .span) text inherited =
      ⟨(Inherited.ofSpan styles text inherited).script, effectiveStyles styles .span⟩ := by
  cases inherited with
  | none => simp [Inherited.ofSpan]
  | some outer => simp [Inherited.ofSpan, effectiveStyles_span_ne_nil]

/-- The scripts that a span hands on depend only on its own and on those handed on to it. -/
theorem script_ofSpan_congr {inherited inherited' : Option Inherited} (styles styles' : List Style)
    (text : SpanText) (h : inherited'.map Inherited.script = inherited.map Inherited.script) :
    (Inherited.ofSpan styles' text inherited').script =
      (Inherited.ofSpan styles text inherited).script := by
  cases inherited <;> cases inherited' <;> simp_all [Inherited.ofSpan]

/-- What nodes hand on after completing has the same scripts. -/
theorem script_handedDown_completed (around : List Doc) :
    (handedDown (around.map completed)).map Inherited.script =
      (handedDown around).map Inherited.script := by
  induction around using List.reverseRecOn with
  | nil => rfl
  | append_singleton around outer ih =>
    obtain ⟨head, kind⟩ := outer
    rw [List.map_append, List.map_singleton, completed_node, handedDown_append_singleton,
      handedDown_append_singleton]
    cases kind with
    | span spans text => exact congrArg some (script_ofSpan_congr head.styles _ text ih)
    | _ => rfl

theorem isSpan_completed (doc : Doc) : doc.completed.isSpan = doc.isSpan := by
  obtain ⟨head, kind⟩ := doc
  have hkind : (node head kind).completed.nodeKind = (node head kind).nodeKind := by
    rw [completed_node]
    exact Kind.nodeKind_map completed kind
  rw [isSpan, hkind, isSpan]

/-- A node that is no span hands on nothing, neither before completing nor after. -/
theorem handedDown_of_isSpan_eq_false {outer : Doc} (h : outer.isSpan = false)
    (around : List Doc) :
    handedDown (around ++ [outer]) = none ∧
      handedDown ((around ++ [outer]).map completed) = none := by
  rw [List.map_append, List.map_singleton]
  exact ⟨handedDown_append_of_isSpan_eq_false h around,
    handedDown_append_of_isSpan_eq_false ((isSpan_completed outer).trans h) _⟩

/-- What is to be shown of a document by induction, for both of its roles and inside any nodes. -/
structure IsRedrawn (doc : Doc) : Prop where
  events : ∀ around, Redrawn (doc.texts.map (Way.inside around))
    (doc.completed.drawing.events (handedDown (around.map completed)))
    (doc.drawing.events (handedDown around))
  entry : ∀ around, Redrawn (doc.entryTexts.map (Way.inside around)) doc.completed.drawing.entry
    doc.drawing.entry

/-- The ways to the texts of documents inside some nodes. -/
def textsIn (around docs : List Doc) : List Way :=
  docs.flatMap fun doc => doc.texts.map (Way.inside around)

theorem textsIn_append (around docs docs' : List Doc) :
    textsIn around (docs ++ docs') = textsIn around docs ++ textsIn around docs' :=
  List.flatMap_append

section Layers

variable {around docs : List Doc} {doc? : Option Doc}

-- nothing is handed on to the nodes
variable (hnone : handedDown around = none) (hnone' : handedDown (around.map completed) = none)

include hnone hnone'

theorem IsRedrawn.whole {doc : Doc} (h : IsRedrawn doc) :
    Redrawn (doc.texts.map (Way.inside around)) doc.completed.drawing.whole doc.drawing.whole := by
  have hevents := h.events around
  rwa [hnone, hnone'] at hevents

theorem redrawn_all (h : ∀ doc ∈ docs, IsRedrawn doc) :
    Redrawn (textsIn around docs)
      (Drawing.all (((docs.map completed).map withDrawing).map Prod.snd))
      (Drawing.all ((docs.map withDrawing).map Prod.snd)) := by
  simp only [Drawing.all, List.flatMap_map]
  exact .flatMap fun doc hdoc => (h doc hdoc).whole hnone hnone'

theorem redrawn_optional (h : ∀ doc ∈ doc?.toList, IsRedrawn doc) :
    Redrawn (textsIn around doc?.toList)
      (Drawing.optional (((doc?.map completed).map withDrawing).map Prod.snd))
      (Drawing.optional ((doc?.map withDrawing).map Prod.snd)) := by
  cases doc? with
  | none => exact .nil
  | some doc =>
    rw [textsIn, Option.toList_some, List.flatMap_singleton]
    exact (h doc (List.mem_singleton_self doc)).whole hnone hnone'

theorem redrawn_optionalWithin (block : Block) (h : ∀ doc ∈ doc?.toList, IsRedrawn doc) :
    Redrawn (textsIn around doc?.toList)
      (Drawing.optionalWithin block (((doc?.map completed).map withDrawing).map Prod.snd))
      (Drawing.optionalWithin block ((doc?.map withDrawing).map Prod.snd)) := by
  cases doc? with
  | none => exact .nil
  | some doc => exact (redrawn_optional hnone hnone' h).within block []

theorem redrawn_headers (h : ∀ doc ∈ docs, IsRedrawn doc) :
    Redrawn (textsIn around docs)
      (headerEvents (((docs.map completed).map withDrawing).map Prod.snd))
      (headerEvents ((docs.map withDrawing).map Prod.snd)) := by
  cases docs with
  | nil => exact .nil
  | cons doc docs => exact (redrawn_all hnone hnone' h).within .tableHeader []

theorem redrawn_items (model : ListModel) (h : ∀ doc ∈ docs, IsRedrawn doc) :
    Redrawn (textsIn around docs) (itemEvents model ((docs.map completed).map withDrawing))
      (itemEvents model (docs.map withDrawing)) := by
  have hlive : textsIn around docs = (docs.filter fun doc => !doc.isDeleted).zipIdx.flatMap
      fun item => item.1.texts.map (Way.inside around) :=
    (flatMap_items (fun doc hdeleted => by rw [texts_of_isDeleted hdeleted, List.map_nil]) _).symm
  rw [itemEvents_map model completed isDeleted_completed, itemEvents_eq, hlive]
  refine .flatMap fun item hitem => ?_
  have hdoc := (List.mem_filter.1 (List.fst_mem_of_mem_zipIdx hitem)).1
  exact ((h item.1 hdoc).whole hnone hnone').within _ _

omit hnone hnone' in
theorem redrawn_entries (h : ∀ doc ∈ docs, IsRedrawn doc) :
    Redrawn (docs.flatMap fun doc => doc.entryTexts.map (Way.inside around))
      (((docs.map completed).map withDrawing).flatMap fun (_, drawing) => drawing.entry)
      ((docs.map withDrawing).flatMap fun (_, drawing) => drawing.entry) := by
  simp only [List.flatMap_map]
  exact .flatMap fun doc hdoc => (h doc hdoc).entry around

/-- A layer that is shown, other than a span, is drawn again if what is below it is. -/
theorem redrawn_layerEvents {kind : Kind Doc} (head : Head)
    (inherited inherited' : Option Inherited) (hkind : kind.nodeKind ≠ .span)
    (hshown : kind.isShown = true)
    (ih : ∀ child ∈ kind.nodes, IsRedrawn child) :
    Redrawn
      (textsIn around kind.children ++
        kind.entries.flatMap fun doc => doc.entryTexts.map (Way.inside around))
      (layerEvents { head with styles := effectiveStyles head.styles kind.nodeKind }
        ((kind.map completed).map withDrawing) inherited')
      (layerEvents head (kind.map withDrawing) inherited) := by
  cases kind <;>
    simp only [Kind.nodes, List.mem_append, or_imp, forall_and] at ih <;>
    simp only [Kind.map, layerEvents, Kind.nodeKind, effectiveStyles_effectiveStyles, Kind.children,
      Kind.entries, List.isEmpty_map, textsIn_append, List.flatMap_nil, List.append_nil]
  case span => exact absurd rfl hkind
  case document header contents footer =>
    exact (((redrawn_optionalWithin hnone hnone' .header ih.1).append
      (redrawn_all hnone hnone' ih.2.1)).append
      (redrawn_optionalWithin hnone hnone' .footer ih.2.2)).within _ _
  case sect level anchor title contents model =>
    cases contents with
    | nil => exact Bool.noConfusion hshown
    | cons child contents =>
      exact ((redrawn_optional hnone hnone' ih.1).append (redrawn_all hnone hnone' ih.2)).within _ _
  case table headers rows =>
    exact ((redrawn_headers hnone hnone' ih.1).append (redrawn_all hnone hnone' ih.2)).within _ _
  case tableCell element rowSpan colSpan =>
    have hopen : ¬(rowSpan.getD 1 = 0 ∨ colSpan.getD 1 = 0) := by
      simpa [Kind.isShown] using hshown
    rw [cellEvents, if_neg hopen, cellEvents, if_neg hopen]
    exact (redrawn_optional hnone hnone' ih).within _ _
  case list elements model => exact (redrawn_items hnone hnone' model ih).within _ _
  case catalog title sections =>
    exact ((redrawn_optional hnone hnone' ih.1).append (redrawn_entries ih.2)).within _ _
  case expression id element index => exact (redrawn_optional hnone hnone' ih).within _ _
  case image => exact .of_isText rfl
  case line => exact .of_isText rfl
  case pageBreak => exact .of_isText rfl
  all_goals exact (redrawn_all hnone hnone' ih).within _ _

end Layers

/-- A text is drawn again: it keeps its run, and its styles are those of its own. -/
theorem redrawn_text (around : List Doc) (head : Head) (text : SpanText) :
    Redrawn [⟨around, node head (.span [] text)⟩]
      (layerEvents { head with styles := effectiveStyles head.styles .span }
        (((Kind.span [] text).map completed).map withDrawing) (handedDown (around.map completed)))
      (layerEvents head ((Kind.span [] text).map withDrawing) (handedDown around)) := by
  let way : Way := ⟨around, node head (.span [] text)⟩
  have hown : Inherited.ofSpan head.styles text (handedDown around) =
      ⟨way.spans.script, way.spans.styles⟩ := ofSpan_handedDown around head [] text
  have hscript := script_ofSpan_congr head.styles head.styles text
    (script_handedDown_completed around)
  have hlast : way.last.nodeKind = .span := rfl
  have hstyles : effectiveStyles head.styles .span =
      if way.takesOver then Kind.defaultStyles .span else way.spans.styles := styles_last_eq hlast
  have hafter : layerEvents { head with styles := effectiveStyles head.styles .span }
      (((Kind.span [] text).map completed).map withDrawing) (handedDown (around.map completed)) =
        [way.redrawn] := by
    simp only [Kind.map, layerEvents, ofSpan_effectiveStyles, hscript, hown, List.map_nil,
      List.isEmpty_nil, if_true, Way.redrawn, ← hstyles]
    rfl
  have hbefore : layerEvents head ((Kind.span [] text).map withDrawing) (handedDown around) =
      [way.spans.event] := by
    simp only [Kind.map, layerEvents, hown, List.map_nil, List.isEmpty_nil, if_true]
    rfl
  rw [hafter, hbefore]
  exact .text way .nil

/-- A span with spans is drawn again if these are: they stand inside one more node. -/
theorem redrawn_spans (around : List Doc) (head : Head) {spans : List Doc} (text : SpanText)
    (hspans : spans.isEmpty = false) (ih : ∀ child ∈ spans, IsRedrawn child) :
    Redrawn (textsIn (around ++ [node head (.span spans text)]) spans)
      (layerEvents { head with styles := effectiveStyles head.styles .span }
        (((Kind.span spans text).map completed).map withDrawing)
        (handedDown (around.map completed)))
      (layerEvents head ((Kind.span spans text).map withDrawing) (handedDown around)) := by
  have hinside := Redrawn.flatMap fun child hchild =>
    (ih child hchild).events (around ++ [node head (.span spans text)])
  rw [List.map_append, List.map_singleton, completed_node, handedDown_append_singleton,
    handedDown_append_singleton] at hinside
  simp only [Kind.map, layerEvents, List.isEmpty_map, hspans, Bool.false_eq_true, if_false,
    List.flatMap_map]
  exact hinside

/-- The texts of a live layer inside some nodes. -/
theorem map_inside_texts_node (around : List Doc) {head : Head} {kind : Kind Doc}
    (hlive : head.flags.isDeleted = false) (hshown : kind.isShown = true)
    (htext : kind.isText = false) :
    (node head kind).texts.map (Way.inside around) =
      textsIn (around ++ [node head kind]) kind.children ++
        kind.entries.flatMap fun doc =>
          doc.entryTexts.map (Way.inside (around ++ [node head kind])) := by
  rw [texts_node, hlive, hshown, htext]
  simp only [Bool.not_true, Bool.or_self, Bool.false_eq_true, if_false, Way.map_inside_inside,
    List.map_append, List.map_flatMap, textsIn]

/-- A live layer that is shown is drawn again if what is below it is. -/
theorem redrawn_live (around : List Doc) {head : Head} {kind : Kind Doc}
    (hlive : head.flags.isDeleted = false) (hshown : kind.isShown = true)
    (ih : ∀ child ∈ kind.nodes, IsRedrawn child) :
    Redrawn ((node head kind).texts.map (Way.inside around))
      (layerEvents { head with styles := effectiveStyles head.styles kind.nodeKind }
        ((kind.map completed).map withDrawing) (handedDown (around.map completed)))
      (layerEvents head (kind.map withDrawing) (handedDown around)) := by
  cases htext : kind.isText with
  | true =>
    obtain ⟨text, rfl⟩ := Kind.exists_eq_span_of_isText htext
    have hway : (node head (.span [] text)).texts.map (Way.inside around) =
        [⟨around, node head (.span [] text)⟩] := by
      rw [texts_node, hlive, hshown, htext]
      simp [Way.inside]
    rw [hway]
    exact redrawn_text around head text
  | false =>
    rw [map_inside_texts_node around hlive hshown htext]
    by_cases hkind : kind.nodeKind = .span
    · obtain ⟨spans, text, rfl⟩ := Kind.exists_eq_span hkind
      have hentries : (Kind.span spans text).entries = [] := rfl
      rw [hentries, List.flatMap_nil, List.append_nil]
      exact redrawn_spans around head text htext ih
    · have houter : (node head kind).isSpan = false := decide_eq_false hkind
      obtain ⟨hnone, hnone'⟩ := handedDown_of_isSpan_eq_false houter around
      exact redrawn_layerEvents hnone hnone' head _ _ hkind hshown ih

/-- A layer is drawn again as an entry if what is below it is. -/
theorem redrawn_layerEntry (around : List Doc) (head : Head) {kind : Kind Doc}
    (ih : ∀ child ∈ kind.nodes, IsRedrawn child) :
    Redrawn ((node head kind).entryTexts.map (Way.inside around))
      (layerEntry ((kind.map completed).map withDrawing)) (layerEntry (kind.map withDrawing)) := by
  rw [entryTexts_node, Way.map_inside_inside]
  cases kind with
  | sect level anchor title contents model =>
    cases title with
    | none => exact .nil
    | some title =>
      have houter : (node head (.sect level anchor (some title) contents model)).isSpan = false :=
        rfl
      obtain ⟨hnone, hnone'⟩ := handedDown_of_isSpan_eq_false houter around
      rw [Kind.entryTitle, Option.toList_some, List.flatMap_singleton]
      exact ((ih title (by simp [Kind.nodes])).whole hnone hnone').within _ []
  | _ => exact .nil

/-- **Every document is drawn again**, in both roles and inside any nodes. -/
theorem isRedrawn (doc : Doc) : doc.IsRedrawn := by
  induction doc using induct with
  | step head kind ih =>
    constructor
    · intro around
      rw [completed_node, events_node, events_node]
      cases hlive : head.flags.isDeleted with
      | true =>
        rw [texts_of_isDeleted (show (node head kind).isDeleted = true from hlive)]
        exact .nil
      | false =>
        rw [if_neg Bool.false_ne_true, if_neg Bool.false_ne_true]
        cases hshown : kind.isShown with
        | true => exact redrawn_live around hlive hshown ih
        | false =>
          rw [texts_node, hlive, hshown, layerEvents_of_isShown_eq_false (by simpa using hshown),
            layerEvents_of_isShown_eq_false (by simpa using hshown)]
          exact .nil
    · intro around
      rw [completed_node, entry_node, entry_node]
      exact redrawn_layerEntry around head ih

/-! ## The two drawings -/

theorem redrawn_events (doc : Doc) : Redrawn doc.texts doc.completed.events doc.events := by
  have hinside : Way.inside [] = id := funext fun _ => rfl
  have hevents := doc.isRedrawn.events []
  rwa [hinside, List.map_id] at hevents

/-- **Drawing a document that was written and read again.**  The events are the same one by one,
except for the texts.  These are those at the ends of the ways, in the same order before and after.
A text keeps its run.  It also keeps its styles, unless it had none of its own and took over those
of the span around it, and then it has the defaults of a span.  So every event has the set of styles
it had exactly if all styles that were taken over are those defaults. -/
theorem read_redrawn (doc : Doc) :
    ∃ doc', ofJson doc.toJson = .ok (some doc') ∧ doc.texts.Sublist doc.ways ∧
      Redrawn doc.texts doc'.events doc.events ∧
      (List.Forall₂ Event.Same doc'.events doc.events ↔
        ∀ way ∈ doc.texts, way.takesOver = true →
          ∀ style, style ∈ way.spans.styles ↔ style ∈ Kind.defaultStyles .span) :=
  ⟨doc.completed, doc.ofJson_toJson, doc.texts_sublist_ways, doc.redrawn_events,
    doc.redrawn_events.same_iff⟩

/-- A text without styles in a span of size twenty. -/
def plainInLarge : Doc :=
  ofKind (.paragraph false [node ⟨[.fontSize (.ofInt 20)], .unset⟩
    (.span [ofKind (.span [] ⟨some "x", none, none, none, none⟩)] ⟨none, none, none, none, none⟩)])

/-- **A document can be drawn otherwise after it was written and read.**  The text is of size twenty
before, and of size twelve after. -/
theorem plainInLarge_drawn_otherwise :
    ∃ doc', ofJson plainInLarge.toJson = .ok (some doc') ∧
      ¬ List.Forall₂ Event.Same doc'.events plainInLarge.events := by
  refine ⟨_, plainInLarge.ofJson_toJson, fun hsame => ?_⟩
  have htaken : ∃ way ∈ plainInLarge.texts, way.takesOver = true ∧
      Style.fontSize (.ofInt 20) ∈ way.spans.styles := by
    decide +kernel
  obtain ⟨way, hway, htakes, hsize⟩ := htaken
  have hdefault := (plainInLarge.redrawn_events.same_iff.1 hsame way hway htakes _).1 hsize
  revert hdefault
  decide +kernel

end Doc

end Bindery
