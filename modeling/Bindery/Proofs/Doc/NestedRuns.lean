import Bindery.Proofs.Doc.Numbering
import Bindery.Proofs.Doc.Drawing
import Mathlib.Data.List.Chain
import Mathlib.Data.List.Induction

/-!
# Runs inside runs

A span that has spans is drawn as the texts of its leaves.  How such a text is set was decided on
the way down to it, span by span: scripts are added to those that were handed on, and styles are
either handed on as they are or replaced.  Read from the leaf, the same is said of the whole way at
once.  A text is set in a script if any span on the way to it is, and it has the styles of the
lowest span on the way that lists some, or else those of the first span (`Way.event`).

* `Doc.ways`: the leaves of a document, each with the nodes around it.
* `Doc.handedDown_path`: what has been handed on along a way, for lists of spans of any length.
* `Doc.events_of_isSpans`: a tree of spans is drawn as the texts at the ends of its ways, of those
  on which no span is deleted.
-/

namespace Bindery

namespace Doc

/-! ## Ways to the leaves -/

/-- A node with the nodes around it, the outermost first. -/
structure Way where
  around : List Doc
  last : Doc

namespace Way

/-- The nodes on a way, from the outermost one to the last. -/
def path (way : Way) : List Doc :=
  way.around ++ [way.last]

/-- The outermost node. -/
def root (way : Way) : Doc :=
  way.around.headD way.last

/-- The way continued outwards. -/
def inside (around : List Doc) (way : Way) : Way :=
  { way with around := around ++ way.around }

/-- No node on the way is deleted. -/
def isLive (way : Way) : Bool :=
  way.path.all fun met => !met.isDeleted

/-- The way goes from a node to a node right below it, and starts at the given one. -/
def StartsAt (doc : Doc) (way : Way) : Prop :=
  way.root = doc ∧ way.path.IsChain fun outer inner => inner ∈ outer.kind.nodes

@[simp] theorem path_inside (around : List Doc) (way : Way) :
    (way.inside around).path = around ++ way.path :=
  List.append_assoc around way.around [way.last]

@[simp] theorem head?_path (way : Way) : way.path.head? = some way.root := by
  obtain ⟨around, last⟩ := way
  cases around <;> rfl

theorem isLive_inside_singleton (doc : Doc) (way : Way) :
    (way.inside [doc]).isLive = (!doc.isDeleted && way.isLive) := by
  rw [isLive, path_inside]
  rfl

end Way

/-- The ways to the leaves of a document in reading order. -/
def ways : Doc → List Way :=
  para fun head kind =>
    if kind.nodes.isEmpty then [⟨[], node head (kind.map Prod.fst)⟩]
    else kind.nodes.flatMap fun (_, ways) => ways.map (Way.inside [node head (kind.map Prod.fst)])

theorem ways_node (head : Head) (kind : Kind Doc) :
    (node head kind).ways =
      if kind.nodes.isEmpty then [⟨[], node head kind⟩]
      else kind.nodes.flatMap fun child => child.ways.map (Way.inside [node head kind]) := by
  rw [ways, para_node, Kind.map_fst_pair, Kind.nodes_map, List.isEmpty_map, List.flatMap_map]

/-- Whether there is nothing below the node. -/
def isBottom (doc : Doc) : Bool :=
  doc.kind.nodes.isEmpty

/-- **The ways lead to the leaves**, to each one once and in the order of the document. -/
theorem map_last_ways (doc : Doc) : doc.ways.map Way.last = doc.everywhere.filter isBottom := by
  induction doc using induct with
  | step head kind ih =>
    rw [ways_node, everywhere_node, List.filter_cons, List.filter_flatMap]
    change _ = if kind.nodes.isEmpty = true then _ else _
    split
    · next hleaf => rw [List.isEmpty_iff.1 hleaf, List.flatMap_nil, List.map_singleton]
    · have hlast : Way.last ∘ Way.inside [node head kind] = Way.last := rfl
      simp only [List.map_flatMap, List.map_map, hlast]
      exact List.flatMap_congr ih

/-- **The ways are ways from the root.** -/
theorem startsAt_of_mem_ways {doc : Doc} {way : Way} (h : way ∈ doc.ways) : way.StartsAt doc := by
  induction doc using induct generalizing way with
  | step head kind ih =>
    rw [ways_node] at h
    split at h
    · obtain rfl := List.mem_singleton.1 h
      exact ⟨rfl, List.isChain_singleton _⟩
    · obtain ⟨child, hchild, hway⟩ := List.mem_flatMap.1 h
      obtain ⟨below, hbelow, rfl⟩ := List.mem_map.1 hway
      obtain ⟨hroot, hchain⟩ := ih child hchild hbelow
      refine ⟨rfl, ?_⟩
      rw [Way.path_inside, List.singleton_append]
      refine List.isChain_cons.2 ⟨?_, hchain⟩
      -- the way goes on at the child
      have hfirst : below.path.head? = some child := by
        rw [Way.head?_path, hroot]
      rw [hfirst]
      intro next hnext
      obtain rfl := Option.some.inj hnext
      exact hchild

/-! ## What is said on the way to a text -/

/-- Whether the document is a span with nothing but spans below it. -/
def IsSpans (doc : Doc) : Prop :=
  ∀ met ∈ doc.everywhere, met.nodeKind = .span

instance (doc : Doc) : Decidable doc.IsSpans :=
  inferInstanceAs (Decidable (∀ met ∈ doc.everywhere, met.nodeKind = .span))

/-- Whether the node asks for its texts to be set as subscripts. -/
def setsSubscript (doc : Doc) : Bool :=
  doc.spanText?.any fun text => text.subscript == some true

/-- Whether the node asks for its texts to be set as superscripts. -/
def setsSuperscript (doc : Doc) : Bool :=
  doc.spanText?.any fun text => text.superscript == some true

/-- Whether the node lists styles of its own. -/
def listsStyles (doc : Doc) : Bool :=
  !doc.head.styles.isEmpty

theorem SpanText.script_eq (text : SpanText) :
    text.script = ⟨text.subscript == some true, text.superscript == some true⟩ := by
  obtain ⟨value, subscript, superscript, reference, referenceIndex⟩ := text
  rcases subscript with _ | _ | _ <;> rcases superscript with _ | _ | _ <;> rfl

namespace Way

/-- The script of a text at the end of a way: what any node on it asks for. -/
def script (way : Way) : Script :=
  ⟨way.path.any setsSubscript, way.path.any setsSuperscript⟩

/-- The styles of a text at the end of a way: those of the lowest node on it that lists some, or
else those of the outermost one. -/
def styles (way : Way) : List Style :=
  ((way.path.filter listsStyles).getLast?.getD way.root).styles

/-- The text at the end of a way, apart from styles. -/
def run (way : Way) : TextRun where
  text := (way.last.spanText?.bind SpanText.value).getD ""
  script := way.script
  referenceIndex := way.last.spanText?.bind SpanText.referenceIndex

/-- The text at the end of a way. -/
def event (way : Way) : Event :=
  .text way.run way.styles

/-- One more span at the end of a way adds its scripts. -/
theorem script_append_singleton (around : List Doc) (outer : Doc) (head : Head) (spans : List Doc)
    (text : SpanText) :
    script ⟨around ++ [outer], node head (.span spans text)⟩ =
      (script ⟨around, outer⟩).union text.script := by
  rw [SpanText.script_eq]
  simp only [script, path, List.any_append, Script.union, List.any_cons, List.any_nil,
    Bool.or_false]
  rfl

/-- One more span at the end of a way replaces the styles if it lists any. -/
theorem styles_append_singleton (around : List Doc) (outer last : Doc) :
    styles ⟨around ++ [outer], last⟩ =
      if last.head.styles.isEmpty then styles ⟨around, outer⟩ else last.styles := by
  have hroot : root ⟨around ++ [outer], last⟩ = root ⟨around, outer⟩ := by
    cases around <;> rfl
  rw [styles, hroot, styles, path, List.filter_append]
  cases hlast : last.head.styles.isEmpty with
  | true => simp [listsStyles, hlast, path]
  | false => simp [listsStyles, hlast]

end Way

/-- What has been handed on below some nodes, the outermost first. -/
def handedDown (around : List Doc) : Option Inherited :=
  around.foldl (fun inherited met => handedOn met.head met.kind inherited) none

theorem handedDown_append_singleton (around : List Doc) (head : Head) (kind : Kind Doc) :
    handedDown (around ++ [node head kind]) = handedOn head kind (handedDown around) := by
  rw [handedDown, List.foldl_append]
  rfl

theorem Kind.exists_eq_span {α : Type} {kind : Kind α} (h : kind.nodeKind = .span) :
    ∃ spans text, kind = span spans text := by
  cases kind with
  | span spans text => exact ⟨spans, text, rfl⟩
  | _ => exact NodeKind.noConfusion h

theorem exists_eq_span {doc : Doc} (h : doc.nodeKind = .span) :
    ∃ head spans text, doc = node head (.span spans text) := by
  obtain ⟨head, kind⟩ := doc
  obtain ⟨spans, text, rfl⟩ := Kind.exists_eq_span h
  exact ⟨head, spans, text, rfl⟩

/-- **What is handed on along a way of spans** are the scripts and the styles of the way. -/
theorem handedDown_path (around : List Doc) (last : Doc)
    (h : ∀ met ∈ around ++ [last], met.nodeKind = .span) :
    handedDown (around ++ [last]) =
      some ⟨Way.script ⟨around, last⟩, Way.styles ⟨around, last⟩⟩ := by
  -- spans are added at the end of the way, as drawing goes down
  induction around using List.reverseRecOn generalizing last with
  | nil =>
    obtain ⟨head, spans, text, rfl⟩ := exists_eq_span (h last List.mem_cons_self)
    have hscript : Way.script ⟨[], node head (.span spans text)⟩ = text.script := by
      rw [SpanText.script_eq]
      simp only [Way.script, Way.path, List.nil_append, List.any_cons, List.any_nil, Bool.or_false]
      rfl
    have hstyles : Way.styles ⟨[], node head (.span spans text)⟩ =
        effectiveStyles head.styles .span := by
      cases hlists : listsStyles (node head (.span spans text)) <;>
        simp only [Way.styles, Way.path, List.nil_append, List.filter_singleton, hlists] <;> rfl
    rw [hscript, hstyles]
    rfl
  | append_singleton around outer ih =>
    obtain ⟨head, spans, text, rfl⟩ := exists_eq_span (h last (by simp))
    rw [handedDown_append_singleton, ih outer fun met hmet => h met (List.mem_append_left _ hmet),
      Way.script_append_singleton, Way.styles_append_singleton]
    rfl

/-! ## The texts of a tree of spans -/

theorem isSpans_of_mem_nodes {head : Head} {kind : Kind Doc} (h : (node head kind).IsSpans)
    {child : Doc} (hchild : child ∈ kind.nodes) : child.IsSpans :=
  fun met hmet => h met (mem_everywhere_of_mem_nodes hchild hmet)

/-- Below a deleted node nothing is live. -/
theorem filter_ways_of_isDeleted {doc : Doc} (h : doc.isDeleted = true) :
    doc.ways.filter Way.isLive = [] := by
  refine List.filter_eq_nil_iff.2 fun way hway hlive => ?_
  have hroot : way.root ∈ way.path := List.mem_of_mem_head? (by rw [Way.head?_path]; rfl)
  have hnot := List.all_eq_true.1 hlive way.root hroot
  rw [(startsAt_of_mem_ways hway).1, h] at hnot
  exact Bool.noConfusion hnot

/-- The live ways through a node that is not deleted. -/
theorem filter_ways_node {head : Head} (kind : Kind Doc) (hlive : head.flags.isDeleted = false) :
    (node head kind).ways.filter Way.isLive =
      if kind.nodes.isEmpty then [⟨[], node head kind⟩]
      else kind.nodes.flatMap fun child =>
        (child.ways.filter Way.isLive).map (Way.inside [node head kind]) := by
  have hnode : (!(node head kind).isDeleted) = true := by
    rw [Bool.not_eq_true']
    exact hlive
  have hinside : Way.isLive ∘ Way.inside [node head kind] = Way.isLive := by
    funext way
    rw [Function.comp_apply, Way.isLive_inside_singleton, hnode, Bool.true_and]
  rw [ways_node]
  split
  · refine List.filter_eq_self.2 (List.forall_mem_singleton.2 ?_)
    rw [Way.isLive, Way.path, List.nil_append, List.all_cons, hnode, List.all_nil]
    rfl
  · simp only [List.filter_flatMap, List.filter_map, hinside]

/-- The events of a span that is not deleted. -/
theorem events_span {head : Head} (spans : List Doc) (text : SpanText)
    (hlive : head.flags.isDeleted = false) (inherited : Option Inherited) :
    (node head (.span spans text)).drawing.events inherited =
      let own := Inherited.ofSpan head.styles text inherited
      if spans.isEmpty then [.text (text.run own.script) own.styles]
      else spans.flatMap fun child => child.drawing.events (some own) := by
  rw [events_node, hlive, if_neg Bool.false_ne_true]
  simp only [layerEvents, Kind.map, List.isEmpty_map, List.flatMap_map]
  rfl

/-- The texts of a tree of spans inside some spans. -/
theorem events_handedDown {doc : Doc} (h : doc.IsSpans) (around : List Doc)
    (haround : ∀ met ∈ around, met.nodeKind = .span) :
    doc.drawing.events (handedDown around) =
      (doc.ways.filter Way.isLive).map fun way => (way.inside around).event := by
  induction doc using induct generalizing around with
  | step head kind ih =>
    cases hlive : head.flags.isDeleted with
    | true =>
      have hdeleted : (node head kind).isDeleted = true := hlive
      rw [events_of_isDeleted hdeleted, filter_ways_of_isDeleted hdeleted, List.map_nil]
    | false =>
      obtain ⟨head, spans, text, heq⟩ := exists_eq_span (h _ (mem_everywhere_self _))
      cases heq
      have hpath : ∀ met ∈ around ++ [node head (.span spans text)], met.nodeKind = .span :=
        List.forall_mem_append.2 ⟨haround, List.forall_mem_singleton.2 rfl⟩
      rw [events_span spans text hlive, filter_ways_node _ hlive, Kind.nodes]
      split
      · -- a leaf has what the way to it says
        have hown := handedDown_path around _ hpath
        rw [handedDown_append_singleton] at hown
        rw [List.map_singleton, Way.inside, List.append_nil, Option.some.inj hown]
        rfl
      · have hinside (way : Way) :
            (way.inside [node head (.span spans text)]).inside around =
              way.inside (around ++ [node head (.span spans text)]) := by
          simp only [Way.inside, List.append_assoc]
        simp only [List.map_flatMap, List.map_map, Function.comp_def, hinside]
        refine List.flatMap_congr fun child hchild => ?_
        rw [← ih child hchild (isSpans_of_mem_nodes h hchild) _ hpath, handedDown_append_singleton]
        rfl

/-- **Runs inside runs.**  A tree of spans is drawn as the texts of its leaves in reading order,
except those with a deleted span on the way to them.  A text is set in the scripts that any span on
the way asks for, and in the styles of the lowest span on the way that lists some, or else of the
first span. -/
theorem events_of_isSpans {doc : Doc} (h : doc.IsSpans) :
    doc.ways.map Way.last = doc.everywhere.filter isBottom ∧
      (∀ way ∈ doc.ways, way.StartsAt doc) ∧
      doc.events = (doc.ways.filter Way.isLive).map Way.event :=
  ⟨doc.map_last_ways, fun _ => startsAt_of_mem_ways,
    events_handedDown h [] fun _ hmem => absurd hmem List.not_mem_nil⟩

/-- A span of subscripts with a large span in it, in which one text is a superscript as well, one
has a colour, and one is deleted. -/
def gradedRuns : Doc :=
  let text (value : String) (superscript : Option Bool) : SpanText :=
    ⟨some value, none, superscript, none, none⟩
  let large := node ⟨[.fontSize (.ofInt 20)], .unset⟩ (.span
    [ofKind (.span [] (text "a" (some true))),
      node ⟨[.fontColor "#ff0000"], .unset⟩ (.span [] (text "b" (some false))),
      node ⟨[], ⟨none, none, some true⟩⟩ (.span [] (text "c" none))] ⟨none, none, none, none, none⟩)
  ofKind (.span [large, ofKind (.span [] (text "d" none))] ⟨none, some true, none, none, none⟩)

/-- The first text takes over the size, the second one has its own colour and no size, and the last
one has the styles of the outer span. -/
theorem gradedRuns_events :
    gradedRuns.IsSpans ∧
      (gradedRuns.ways.filter Way.isLive).map Way.event =
        [.text ⟨"a", ⟨true, true⟩, none⟩ (effectiveStyles [.fontSize (.ofInt 20)] .span),
          .text ⟨"b", ⟨true, false⟩, none⟩ (effectiveStyles [.fontColor "#ff0000"] .span),
          .text ⟨"d", ⟨true, false⟩, none⟩ (effectiveStyles [] .span)] ∧
      gradedRuns.ways.map Way.last = gradedRuns.everywhere.filter isBottom ∧
      (∀ way ∈ gradedRuns.ways, way.StartsAt gradedRuns) ∧
      gradedRuns.events = (gradedRuns.ways.filter Way.isLive).map Way.event := by
  have hspans : gradedRuns.IsSpans := by decide +kernel
  exact ⟨hspans, by decide +kernel, events_of_isSpans hspans⟩

end Doc

end Bindery
