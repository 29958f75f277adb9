import Bindery.Proofs.Doc.NestedRuns
import Mathlib.Data.List.DropRight
import Mathlib.Data.List.Flatten

/-!
# Where the texts of a drawing come from

Each text in the drawing of a document is that of a span without spans, and it is set in what the
spans around that one say.  A node of another kind hands on nothing, so of the way to a text only
the spans at its end matter (`Way.spans`).

* `Doc.texts`: the ways to the texts that are drawn, in the order of the drawing.
* `Doc.texts_sublist_ways`: they are ways to leaves, and none is met twice.
* `Doc.texts_of_isSpans`: in a tree of spans they are the live ways.
* `Doc.handedDown_path_spans`: what has been handed on along any way that ends in a span.
* `Way.takesOver`: the text has no styles of its own and stands in a span.  Otherwise it is drawn in
  the styles that it has by itself (`Doc.styles_last_eq`).
-/

namespace Bindery

namespace Doc

/-- Whether the node is a span. -/
def isSpan (doc : Doc) : Bool :=
  doc.nodeKind = .span

theorem isSpan_eq_true {doc : Doc} : doc.isSpan = true ↔ doc.nodeKind = .span :=
  decide_eq_true_iff

/-! ## The ways to the texts -/

namespace Kind

variable {α : Type}

/-- Whether a layer is drawn by one text. -/
def isText : Kind α → Bool
  | span spans _ => spans.isEmpty
  | _ => false

/-- What is drawn of a layer as an entry: the title, if it is a section with one. -/
def entryTitle : Kind α → List α
  | sect _ _ title _ _ => title.toList
  | _ => []

@[simp] theorem isText_map {β : Type} (f : α → β) (kind : Kind α) :
    (kind.map f).isText = kind.isText := by
  cases kind <;> simp [map, isText]

@[simp] theorem entryTitle_map {β : Type} (f : α → β) (kind : Kind α) :
    (kind.map f).entryTitle = kind.entryTitle.map f := by
  cases kind with
  | sect level anchor title contents model => cases title <;> rfl
  | _ => rfl

theorem entryTitle_sublist_nodes (kind : Kind α) : kind.entryTitle.Sublist kind.nodes := by
  cases kind with
  | sect level anchor title contents model => exact List.sublist_append_left _ _
  | _ => exact List.nil_sublist _

theorem exists_eq_span_of_isText {kind : Kind α} (h : kind.isText = true) :
    ∃ text, kind = span [] text := by
  cases kind with
  | span spans text =>
    obtain rfl := List.isEmpty_iff.1 h
    exact ⟨text, rfl⟩
  | _ => exact Bool.noConfusion h

end Kind

/-- The ways to the texts that are drawn for a node in each of its roles. -/
structure TextWays where
  /-- As itself. -/
  own : List Way
  /-- As an entry of a catalog. -/
  entry : List Way

/-- The ways through a layer, given those through its nodes. -/
def textWaysLayer (head : Head) (kind : Kind (Doc × TextWays)) : TextWays where
  own :=
    if head.flags.isDeleted || !kind.isShown then []
    else if kind.isText then [⟨[], node head (kind.map Prod.fst)⟩]
    else (kind.children.flatMap (·.2.own) ++ kind.entries.flatMap (·.2.entry)).map
      (Way.inside [node head (kind.map Prod.fst)])
  entry := (kind.entryTitle.flatMap (·.2.own)).map (Way.inside [node head (kind.map Prod.fst)])

/-- The ways to the texts of a document in each of its roles. -/
def textWays : Doc → TextWays :=
  para textWaysLayer

/-- The ways to the texts that are drawn for a document, in the order of the drawing. -/
def texts (doc : Doc) : List Way :=
  doc.textWays.own

/-- The ways to the texts that are drawn for a document as an entry of a catalog. -/
def entryTexts (doc : Doc) : List Way :=
  doc.textWays.entry

theorem texts_node (head : Head) (kind : Kind Doc) :
    (node head kind).texts =
      if head.flags.isDeleted || !kind.isShown then []
      else if kind.isText then [⟨[], node head kind⟩]
      else (kind.children.flatMap texts ++ kind.entries.flatMap entryTexts).map
        (Way.inside [node head kind]) := by
  rw [texts, textWays, para_node]
  simp only [textWaysLayer, Kind.isShown_map, Kind.isText_map, Kind.map_fst_pair, Kind.children_map,
    Kind.entries_map, List.flatMap_map]
  rfl

theorem entryTexts_node (head : Head) (kind : Kind Doc) :
    (node head kind).entryTexts =
      (kind.entryTitle.flatMap texts).map (Way.inside [node head kind]) := by
  rw [entryTexts, textWays, para_node]
  simp only [textWaysLayer, Kind.map_fst_pair, Kind.entryTitle_map, List.flatMap_map]
  rfl

theorem texts_of_isDeleted {doc : Doc} (h : doc.isDeleted = true) : doc.texts = [] := by
  obtain ⟨head, kind⟩ := doc
  rw [texts_node]
  exact if_pos (Bool.or_eq_true_iff.2 (Or.inl h))

theorem texts_and_entryTexts_sublist_ways (doc : Doc) :
    doc.texts.Sublist doc.ways ∧ doc.entryTexts.Sublist doc.ways := by
  induction doc using induct with
  | step head kind ih =>
    have hways (h : kind.nodes.isEmpty = false) : (node head kind).ways =
        (kind.nodes.flatMap ways).map (Way.inside [node head kind]) := by
      rw [ways_node, h, if_neg Bool.false_ne_true, List.map_flatMap]
    constructor
    · rw [texts_node]
      split
      · exact List.nil_sublist _
      split
      · next htext =>
        obtain ⟨text, rfl⟩ := Kind.exists_eq_span_of_isText htext
        rw [ways_node]
        exact List.Sublist.refl _
      cases hnodes : kind.nodes.isEmpty with
      | true =>
        have hnone := List.isEmpty_iff.1 hnodes
        rw [Kind.nodes_eq_append, List.append_eq_nil_iff] at hnone
        rw [hnone.1, hnone.2]
        exact List.nil_sublist _
      | false =>
        rw [hways hnodes, Kind.nodes_eq_append, List.flatMap_append]
        exact ((List.Sublist.flatMap_right _ fun child hchild =>
          (ih child (Kind.mem_nodes.2 (.inl hchild))).1).append
          (List.Sublist.flatMap_right _ fun entry hentry =>
            (ih entry (Kind.mem_nodes.2 (.inr hentry))).2)).map _
    · rw [entryTexts_node]
      cases hnodes : kind.nodes.isEmpty with
      | true =>
        have hnone := kind.entryTitle_sublist_nodes
        rw [List.isEmpty_iff.1 hnodes] at hnone
        rw [List.eq_nil_of_sublist_nil hnone]
        exact List.nil_sublist _
      | false =>
        rw [hways hnodes]
        refine List.Sublist.map _ (List.Sublist.trans ?_ (kind.entryTitle_sublist_nodes.flatMap _))
        exact List.Sublist.flatMap_right _ fun title htitle =>
          (ih title (kind.entryTitle_sublist_nodes.subset htitle)).1

/-- **The texts are leaves**, each at the end of its own way, in the order of the document. -/
theorem texts_sublist_ways (doc : Doc) : doc.texts.Sublist doc.ways :=
  doc.texts_and_entryTexts_sublist_ways.1

/-- **The texts of a tree of spans** are its leaves, except those with a deleted span on the way to
them. -/
theorem texts_of_isSpans {doc : Doc} (h : doc.IsSpans) :
    doc.texts = doc.ways.filter Way.isLive := by
  induction doc using induct with
  | step head kind ih =>
    cases hlive : head.flags.isDeleted with
    | true =>
      have hdeleted : (node head kind).isDeleted = true := hlive
      rw [texts_of_isDeleted hdeleted, filter_ways_of_isDeleted hdeleted]
    | false =>
      obtain ⟨head, spans, text, heq⟩ := exists_eq_span (h _ (mem_everywhere_self _))
      cases heq
      have hbelow : spans.flatMap texts = spans.flatMap fun child => child.ways.filter Way.isLive :=
        List.flatMap_congr fun child hchild => ih child hchild (isSpans_of_mem_nodes h hchild)
      rw [texts_node, hlive, filter_ways_node _ hlive]
      cases spans with
      | nil => rfl
      | cons child spans =>
        simp only [Kind.isShown, Kind.isText, Kind.children, Kind.entries, Kind.nodes, hbelow,
          Bool.not_true, Bool.or_self, Bool.false_eq_true, if_false, List.isEmpty_cons,
          List.flatMap_nil, List.append_nil, List.map_flatMap]

/-! ## What is handed on to a text -/

namespace Way

/-- The spans at the end of a way. -/
def spans (way : Way) : Way :=
  { way with around := way.around.rtakeWhile isSpan }

/-- Whether a text at the end of a way takes over styles: it lists none, and it is in a span. -/
def takesOver (way : Way) : Bool :=
  !way.last.listsStyles && way.around.getLast?.any isSpan

theorem inside_inside (outer inner : List Doc) (way : Way) :
    (way.inside inner).inside outer = way.inside (outer ++ inner) := by
  simp only [inside, List.append_assoc]

theorem map_inside_inside (outer inner : List Doc) (ways : List Way) :
    (ways.map (inside inner)).map (inside outer) = ways.map (inside (outer ++ inner)) := by
  rw [List.map_map]
  exact List.map_congr_left fun way _ => way.inside_inside outer inner

end Way

/-- A node that is no span hands on nothing, whatever has been handed on to it. -/
theorem handedDown_append_of_isSpan_eq_false {outer : Doc} (h : outer.isSpan = false)
    (around : List Doc) : handedDown (around ++ [outer]) = none := by
  obtain ⟨head, kind⟩ := outer
  rw [handedDown_append_singleton]
  cases kind <;> first | rfl | exact Bool.noConfusion h

theorem isSome_handedDown (around : List Doc) :
    (handedDown around).isSome = around.getLast?.any isSpan := by
  induction around using List.reverseRecOn with
  | nil => rfl
  | append_singleton around outer ih =>
    rw [List.getLast?_append, List.getLast?_singleton, Option.some_or, Option.any_some]
    cases hspan : outer.isSpan with
    | false => rw [handedDown_append_of_isSpan_eq_false hspan]; rfl
    | true =>
      obtain ⟨head, spans, text, rfl⟩ := exists_eq_span (isSpan_eq_true.1 hspan)
      rw [handedDown_append_singleton]
      rfl

/-- Only the spans at the end of a way hand on anything. -/
theorem handedDown_rtakeWhile (around : List Doc) :
    handedDown (around.rtakeWhile isSpan) = handedDown around := by
  induction around using List.reverseRecOn with
  | nil => rfl
  | append_singleton around outer ih =>
    rw [List.rtakeWhile_concat]
    cases hspan : outer.isSpan with
    | false => rw [handedDown_append_of_isSpan_eq_false hspan]; rfl
    | true =>
      obtain ⟨head, kind⟩ := outer
      rw [if_pos rfl, handedDown_append_singleton, handedDown_append_singleton, ih]

/-- **What is handed on along a way that ends in a span** are the scripts and the styles of the
spans at its end. -/
theorem handedDown_path_spans {way : Way} (h : way.last.nodeKind = .span) :
    handedDown way.path = some ⟨way.spans.script, way.spans.styles⟩ := by
  obtain ⟨around, last⟩ := way
  have hspans : ∀ met ∈ around.rtakeWhile isSpan ++ [last], met.nodeKind = .span :=
    List.forall_mem_append.2 ⟨fun met hmet => isSpan_eq_true.1 (List.mem_rtakeWhile_imp hmet),
      List.forall_mem_singleton.2 h⟩
  rw [Way.path, Way.spans, ← handedDown_path _ last hspans]
  obtain ⟨head, kind⟩ := last
  rw [handedDown_append_singleton, handedDown_append_singleton, handedDown_rtakeWhile]

theorem ofSpan_handedDown (around : List Doc) (head : Head) (spans : List Doc) (text : SpanText) :
    let way : Way := ⟨around, node head (.span spans text)⟩
    Inherited.ofSpan head.styles text (handedDown around) =
      ⟨way.spans.script, way.spans.styles⟩ := by
  intro way
  have hpath : handedDown way.path = _ := handedDown_path_spans rfl
  rw [Way.path, handedDown_append_singleton] at hpath
  exact Option.some.inj hpath

/-- A span without styles has the defaults of a span. -/
theorem effectiveStyles_nil_span : effectiveStyles [] .span = Kind.defaultStyles .span := by
  decide +kernel

/-- **The styles that a span has by itself** are those that it is drawn in, unless it takes over
styles, and then they are the defaults. -/
theorem styles_last_eq {way : Way} (h : way.last.nodeKind = .span) :
    way.last.styles =
      if way.takesOver then Kind.defaultStyles .span else way.spans.styles := by
  obtain ⟨around, last⟩ := way
  obtain ⟨head, spans, text, rfl⟩ := exists_eq_span h
  have hown : Way.styles (Way.spans ⟨around, node head (.span spans text)⟩) =
      (Inherited.ofSpan head.styles text (handedDown around)).styles := by
    rw [ofSpan_handedDown around head spans text]
  have hlists : listsStyles (node head (.span spans text)) = !head.styles.isEmpty := rfl
  change effectiveStyles head.styles .span = _
  rw [Way.takesOver, hlists, Bool.not_not, ← isSome_handedDown, hown]
  cases head.styles with
  | nil =>
    rw [effectiveStyles_nil_span]
    cases handedDown around with
    | none => exact effectiveStyles_nil_span.symm
    | some outer => rfl
  | cons style styles => cases handedDown around <;> rfl

end Doc

end Bindery
