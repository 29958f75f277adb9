import Bindery.Doc.PlainText
import Bindery.Proofs.Doc.Equality
import Bindery.Proofs.Doc.Redrawing

/-!
# Equal documents read the same

Equality of documents compares styles in full, and drawing asks which of them are explicit: a span
without explicit styles takes over those of the span around it.  So equal documents may be drawn in
other styles.  In everything else the drawings agree, event by event, where numbers are compared as
numbers (`Event.Agrees`), and the plain texts are the same.

## How the proof goes

What equality says of two layers is said once, kind by kind (`Kind.Rel`, `rel_of_agree`): the kinds
are the same, the attributes are equal, and the nodes correspond to each other in place.  Everything
that drawing is made of takes corresponding nodes to corresponding events (`agrees_all` to
`Kind.Rel.layerEvents`), and the induction on the document is over both roles in which a node is
drawn and all things handed on with the same scripts (`DrawnInAgreement`).
-/

namespace Bindery

/-! ## What equality says of values -/

namespace Scalar

variable {α β : Type}

theorem forall₂_of_agreeItems {agree : α → β → Bool} {R : α → β → Prop} {as : List α} {bs : List β}
    (hR : ∀ a ∈ as, ∀ b, agree a b = true → R a b) (h : agreeItems agree as bs = true) :
    List.Forall₂ R as bs := by
  induction as generalizing bs with
  | nil =>
    cases bs with
    | nil => exact .nil
    | cons b bs => exact absurd h Bool.false_ne_true
  | cons a as ih =>
    cases bs with
    | nil => exact absurd h Bool.false_ne_true
    | cons b bs =>
      rw [List.forall_mem_cons] at hR
      rw [agreeItems, Bool.and_eq_true] at h
      exact .cons (hR.1 b h.1) (ih hR.2 h.2)

theorem rel_of_agreeOption {agree : α → β → Bool} {R : α → β → Prop} {a? : Option α} {b? : Option β}
    (hR : ∀ a ∈ a?.toList, ∀ b, agree a b = true → R a b) (h : agreeOption agree a? b? = true) :
    Option.Rel R a? b? := by
  cases a? <;> cases b?
  case none.none => exact .none
  case some.some a b => exact .some (hR a (by simp) b h)
  all_goals exact absurd h Bool.false_ne_true

theorem agreeOption_beq [BEq α] [LawfulBEq α] {a? b? : Option α} :
    agreeOption (fun a b => a == b) a? b? = true ↔ a? = b? := by
  cases a? <;> cases b? <;> simp [agreeOption]

end Scalar

namespace Doc

/-! ## What equality says of a layer -/

/-- Two lines that differ in the sign of a zero at most. -/
def LineAgrees (a b : Line) : Prop :=
  a.lineType = b.lineType ∧ a.value.numEq b.value = true ∧ a.color = b.color

/-- Two lists of widths that differ in the signs of zeros at most. -/
def WidthsAgree (a b : Option (List Binary64)) : Prop :=
  Scalar.agree (.optional (.sequence .number)) a b = true

/-- Layers of one kind, with equal attributes and with corresponding nodes in place. -/
inductive Kind.Rel {ν μ : Type} (R : ν → μ → Prop) : Kind ν → Kind μ → Prop
  | document {header : Option ν} {header' : Option μ} {contents : List ν} {contents' : List μ}
      {footer : Option ν} {footer' : Option μ} (hheader : Option.Rel R header header')
      (hcontents : List.Forall₂ R contents contents') (hfooter : Option.Rel R footer footer') :
      Rel R (.document header contents footer) (.document header' contents' footer')
  | paragraph (indent : Bool) {spans : List ν} {spans' : List μ}
      (hspans : List.Forall₂ R spans spans') :
      Rel R (.paragraph indent spans) (.paragraph indent spans')
  | span {spans : List ν} {spans' : List μ} (hspans : List.Forall₂ R spans spans')
      (text : SpanText) : Rel R (.span spans text) (.span spans' text)
  | sect (level : Option Int32) (anchor : Option String) {title : Option ν} {title' : Option μ}
      {contents : List ν} {contents' : List μ} (htitle : Option.Rel R title title')
      (hcontents : List.Forall₂ R contents contents') (model : Option ListModel) :
      Rel R (.sect level anchor title contents model) (.sect level anchor title' contents' model)
  | table {headers : List ν} {headers' : List μ} {rows : List ν} {rows' : List μ}
      (hheaders : List.Forall₂ R headers headers') (hrows : List.Forall₂ R rows rows') :
      Rel R (.table headers rows) (.table headers' rows')
  | tableRow {cells : List ν} {cells' : List μ} (hcells : List.Forall₂ R cells cells') :
      Rel R (.tableRow cells) (.tableRow cells')
  | tableCell {element : Option ν} {element' : Option μ} (helement : Option.Rel R element element')
      (rowSpan colSpan : Option UInt32) :
      Rel R (.tableCell element rowSpan colSpan) (.tableCell element' rowSpan colSpan)
  | list {elements : List ν} {elements' : List μ} (helements : List.Forall₂ R elements elements')
      (model : ListModel) : Rel R (.list elements model) (.list elements' model)
  | image (source : Option String) : Rel R (.image source) (.image source)
  | line {line line' : Line} (hline : LineAgrees line line') : Rel R (.line line) (.line line')
  | conditional {contents : List ν} {contents' : List μ}
      (hcontents : List.Forall₂ R contents contents') (condition : Option String) :
      Rel R (.conditional contents condition) (.conditional contents' condition)
  | multiElement {elements : List ν} {elements' : List μ}
      (helements : List.Forall₂ R elements elements') :
      Rel R (.multiElement elements) (.multiElement elements')
  | multiParagraph {paragraphs : List ν} {paragraphs' : List μ}
      (hparagraphs : List.Forall₂ R paragraphs paragraphs') :
      Rel R (.multiParagraph paragraphs) (.multiParagraph paragraphs')
  | singleRow {elements : List ν} {elements' : List μ} {widths widths' : Option (List Binary64)}
      (helements : List.Forall₂ R elements elements') (hwidths : WidthsAgree widths widths') :
      Rel R (.singleRow elements widths) (.singleRow elements' widths')
  | pageBreak : Rel R .pageBreak .pageBreak
  | catalog {title : Option ν} {title' : Option μ} {sections : List ν} {sections' : List μ}
      (htitle : Option.Rel R title title') (hsections : List.Forall₂ R sections sections') :
      Rel R (.catalog title sections) (.catalog title' sections')
  | expression (id : Option String) {element : Option ν} {element' : Option μ}
      (helement : Option.Rel R element element') (index : UInt32) :
      Rel R (.expression id element index) (.expression id element' index)

section Layers

variable {ν μ : Type} {same : ν → μ → Bool} {R : ν → μ → Prop}

/-- Layers with equal own attributes correspond. -/
theorem rel_kindOf (kind : NodeKind) {own : Record ν (ownSchema kind)}
    {own' : Record μ (ownSchema kind)}
    (hR : ∀ x ∈ (kindOf kind own).nodes, ∀ y, same x y = true → R x y)
    (h : Record.agree same (ownSchema kind) own own' = true) :
    Kind.Rel R (kindOf kind own) (kindOf kind own') := by
  cases kind <;>
    simp only [Record.agree, AttributeType.agree, Scalar.agree, Bool.and_eq_true, beq_iff_eq,
      Scalar.agreeOption_beq, and_true] at h <;>
    simp only [kindOf, Kind.nodes, List.forall_mem_append] at hR
  case document =>
    exact .document (Scalar.rel_of_agreeOption hR.1 h.1) (Scalar.forall₂_of_agreeItems hR.2.1 h.2.1)
      (Scalar.rel_of_agreeOption hR.2.2 h.2.2)
  case paragraph =>
    obtain ⟨indent, spans, ⟨⟩⟩ := own
    obtain ⟨rfl, hspans⟩ := h
    exact .paragraph _ (Scalar.forall₂_of_agreeItems hR hspans)
  case span =>
    obtain ⟨spans, value, subscript, superscript, reference, referenceIndex, ⟨⟩⟩ := own
    obtain ⟨hspans, rfl, rfl, rfl, rfl, rfl⟩ := h
    exact .span (Scalar.forall₂_of_agreeItems hR hspans) _
  case sect =>
    obtain ⟨level, anchor, title, contents, model, ⟨⟩⟩ := own
    obtain ⟨rfl, rfl, htitle, hcontents, rfl⟩ := h
    exact .sect _ _ (Scalar.rel_of_agreeOption hR.1 htitle)
      (Scalar.forall₂_of_agreeItems hR.2 hcontents) _
  case table =>
    exact .table (Scalar.forall₂_of_agreeItems hR.1 h.1) (Scalar.forall₂_of_agreeItems hR.2 h.2)
  case tableRow => exact .tableRow (Scalar.forall₂_of_agreeItems hR h)
  case tableCell =>
    obtain ⟨element, rowSpan, colSpan, ⟨⟩⟩ := own
    obtain ⟨helement, rfl, rfl⟩ := h
    exact .tableCell (Scalar.rel_of_agreeOption hR helement) _ _
  case list =>
    obtain ⟨elements, model, ⟨⟩⟩ := own
    obtain ⟨helements, rfl⟩ := h
    exact .list (Scalar.forall₂_of_agreeItems hR helements) _
  case image =>
    obtain ⟨source, ⟨⟩⟩ := own
    subst h
    exact .image _
  case line => exact .line h
  case conditional =>
    obtain ⟨contents, condition, ⟨⟩⟩ := own
    obtain ⟨hcontents, rfl⟩ := h
    exact .conditional (Scalar.forall₂_of_agreeItems hR hcontents) _
  case multiElement => exact .multiElement (Scalar.forall₂_of_agreeItems hR h)
  case multiParagraph => exact .multiParagraph (Scalar.forall₂_of_agreeItems hR h)
  case singleRow => exact .singleRow (Scalar.forall₂_of_agreeItems hR h.1) h.2
  case pageBreak => exact .pageBreak
  case catalog =>
    exact .catalog (Scalar.rel_of_agreeOption hR.1 h.1) (Scalar.forall₂_of_agreeItems hR.2 h.2)
  case expression =>
    obtain ⟨id, element, index, ⟨⟩⟩ := own
    obtain ⟨rfl, helement, rfl⟩ := h
    exact .expression _ (Scalar.rel_of_agreeOption hR helement) _

/-- **What equality says of layers**: the flags are the same, and the layers correspond. -/
theorem rel_of_agree {sameStyles : Parts family ν → Parts family μ → Bool} {head head' : Head}
    {kind : Kind ν} {kind' : Kind μ} (hR : ∀ x ∈ kind.nodes, ∀ y, same x y = true → R x y)
    (h : family.agree sameStyles same (parts head kind) (parts head' kind') = true) :
    head.flags = head'.flags ∧ Kind.Rel R kind kind' := by
  have hown (a : NodeKind) (own : Record μ (ownSchema a)) (hkind : a = kind.nodeKind)
      (hrecord :
        Record.agree same (ownSchema kind.nodeKind) (ownRecord kind) (hkind ▸ own) = true) :
      Kind.Rel R kind (kindOf a own) := by
    subst hkind
    have hrel := rel_kindOf kind.nodeKind (by rwa [kindOf_ownRecord]) hrecord
    rwa [kindOf_ownRecord] at hrel
  unfold NodeFamily.agree at h
  split at h
  · next hkind =>
    simp only [Bool.and_eq_true] at h
    obtain ⟨⟨hshared, hrecord⟩, -⟩ := h
    constructor
    · obtain ⟨styles, editable, deletable, deleted⟩ := head
      obtain ⟨styles', editable', deletable', deleted'⟩ := head'
      simp only [parts, Record.agree, AttributeType.agree, Scalar.agree, Scalar.agreeOption_beq,
        Bool.and_eq_true, and_true] at hshared
      obtain ⟨rfl, rfl, rfl⟩ := hshared
      rfl
    · rw [← kindOf_ownRecord kind']
      exact hown _ _ hkind hrecord
  · exact absurd h Bool.false_ne_true

end Layers

/-! ## Drawings that agree -/

/-- Two blocks that differ in widths at most, and there in the signs of zeros. -/
inductive Block.Agrees : Block → Block → Prop
  | refl (block : Block) : Agrees block block
  | singleRow {widths widths' : Option (List Binary64)} (h : WidthsAgree widths widths') :
      Agrees (.singleRow widths) (.singleRow widths')

/-- Two events that say the same apart from styles, numbers being compared as numbers. -/
inductive Event.Agrees : Event → Event → Prop
  | enter {block block' : Block} (h : block.Agrees block') (styles styles' : List Style) :
      Agrees (.enter block styles) (.enter block' styles')
  | leave {block block' : Block} (h : block.Agrees block') : Agrees (.leave block) (.leave block')
  | text (run : TextRun) (styles styles' : List Style) :
      Agrees (.text run styles) (.text run styles')
  | image (source : Option String) (styles styles' : List Style) :
      Agrees (.image source styles) (.image source styles')
  | line {l l' : Line} (h : LineAgrees l l') (styles styles' : List Style) :
      Agrees (.line l styles) (.line l' styles')
  | pageBreak : Agrees .pageBreak .pageBreak

/-- Two drawings that agree event by event. -/
abbrev EventsAgree : List Event → List Event → Prop :=
  List.Forall₂ Event.Agrees

/-- What is to be shown of two documents by induction, for both of their roles. -/
structure DrawnInAgreement (a b : Doc) : Prop where
  isDeleted : a.isDeleted = b.isDeleted
  events : ∀ inherited inherited' : Option Inherited,
    inherited'.map Inherited.script = inherited.map Inherited.script →
      EventsAgree (a.drawing.events inherited) (b.drawing.events inherited')
  entry : EventsAgree a.drawing.entry b.drawing.entry

theorem DrawnInAgreement.whole {a b : Doc} (h : DrawnInAgreement a b) :
    EventsAgree a.drawing.whole b.drawing.whole :=
  h.events none none rfl

theorem EventsAgree.within {block block' : Block} {events events' : List Event}
    (hblock : block.Agrees block') (styles styles' : List Style) (h : EventsAgree events events') :
    EventsAgree (within block styles events) (within block' styles' events') :=
  .cons (.enter hblock styles styles') (List.rel_append h (.cons (.leave hblock) .nil))

section Layers

variable {docs docs' : List Doc} {doc? doc?' : Option Doc}

theorem agrees_all (h : List.Forall₂ DrawnInAgreement docs docs') :
    EventsAgree (Drawing.all ((docs.map withDrawing).map Prod.snd))
      (Drawing.all ((docs'.map withDrawing).map Prod.snd)) := by
  simp only [Drawing.all, List.flatMap_map]
  exact List.rel_flatMap h fun _ _ => DrawnInAgreement.whole

theorem agrees_optional (h : Option.Rel DrawnInAgreement doc? doc?') :
    EventsAgree (Drawing.optional ((doc?.map withDrawing).map Prod.snd))
      (Drawing.optional ((doc?'.map withDrawing).map Prod.snd)) := by
  cases h with
  | none => exact .nil
  | some h => exact h.whole

theorem agrees_optionalWithin (block : Block) (h : Option.Rel DrawnInAgreement doc? doc?') :
    EventsAgree (Drawing.optionalWithin block ((doc?.map withDrawing).map Prod.snd))
      (Drawing.optionalWithin block ((doc?'.map withDrawing).map Prod.snd)) := by
  cases h with
  | none => exact .nil
  | some h => exact h.whole.within (.refl block) [] []

theorem agrees_headers (h : List.Forall₂ DrawnInAgreement docs docs') :
    EventsAgree (headerEvents ((docs.map withDrawing).map Prod.snd))
      (headerEvents ((docs'.map withDrawing).map Prod.snd)) := by
  cases h with
  | nil => exact .nil
  | cons hdoc hdocs => exact (agrees_all (.cons hdoc hdocs)).within (.refl .tableHeader) [] []

/-- Corresponding elements have the same numbers. -/
theorem forall₂_zipIdx {α β : Type} {R : α → β → Prop} {as : List α} {bs : List β}
    (h : List.Forall₂ R as bs) (start : Nat) :
    List.Forall₂ (fun a b => R a.1 b.1 ∧ a.2 = b.2) (as.zipIdx start) (bs.zipIdx start) := by
  induction h generalizing start with
  | nil => exact .nil
  | cons hab _ ih => exact .cons ⟨hab, rfl⟩ (ih (start + 1))

theorem agrees_items (model : ListModel) (h : List.Forall₂ DrawnInAgreement docs docs') :
    EventsAgree (itemEvents model (docs.map withDrawing))
      (itemEvents model (docs'.map withDrawing)) := by
  rw [itemEvents_eq, itemEvents_eq]
  have hlive : List.Forall₂ DrawnInAgreement (docs.filter fun doc => !doc.isDeleted)
      (docs'.filter fun doc => !doc.isDeleted) :=
    List.rel_filter (fun a b hab => Bool.eq_iff_iff.1 (congrArg Bool.not hab.isDeleted)) h
  refine List.rel_flatMap (forall₂_zipIdx hlive 0) ?_
  rintro ⟨a, i⟩ ⟨b, j⟩ ⟨hab, rfl⟩
  exact hab.whole.within (.refl _) [] []

theorem agrees_entries (h : List.Forall₂ DrawnInAgreement docs docs') :
    EventsAgree ((docs.map withDrawing).flatMap fun (_, drawing) => drawing.entry)
      ((docs'.map withDrawing).flatMap fun (_, drawing) => drawing.entry) := by
  simp only [List.flatMap_map]
  exact List.rel_flatMap h fun _ _ => DrawnInAgreement.entry

end Layers

/-- **Layers with corresponding nodes are drawn in agreement.** -/
theorem Kind.Rel.layerEvents {kind kind' : Kind Doc} (h : Kind.Rel DrawnInAgreement kind kind')
    (head head' : Head) {inherited inherited' : Option Inherited}
    (hscript : inherited'.map Inherited.script = inherited.map Inherited.script) :
    EventsAgree (layerEvents head (kind.map withDrawing) inherited)
      (layerEvents head' (kind'.map withDrawing) inherited') := by
  cases h with
  | document hheader hcontents hfooter =>
    have hall := List.rel_append (List.rel_append (agrees_optionalWithin .header hheader)
      (agrees_all hcontents)) (agrees_optionalWithin .footer hfooter)
    exact EventsAgree.within (.refl _) _ _ hall
  | span hspans text =>
    have hown := script_ofSpan_congr head.styles head'.styles text hscript
    cases hspans with
    | nil =>
      simp only [Kind.map, Doc.layerEvents, List.map_nil, List.isEmpty_nil, if_true, hown]
      exact .cons (.text _ _ _) .nil
    | cons hspan hspans =>
      simp only [Kind.map, Doc.layerEvents, List.flatMap_map]
      exact List.rel_flatMap (.cons hspan hspans) fun a b hab =>
        hab.events _ _ (congrArg some hown)
  | sect level anchor htitle hcontents model =>
    have hall := List.rel_append (agrees_optional htitle) (agrees_all hcontents)
    cases hcontents with
    | nil => exact .nil
    | cons => exact EventsAgree.within (.refl _) _ _ hall
  | table hheaders hrows =>
    exact EventsAgree.within (.refl _) _ _
      (List.rel_append (agrees_headers hheaders) (agrees_all hrows))
  | tableCell helement rowSpan colSpan =>
    simp only [Kind.map, Doc.layerEvents, cellEvents]
    split
    · exact .nil
    · exact (agrees_optional helement).within (.refl _) _ _
  | list helements model => exact (agrees_items model helements).within (.refl _) _ _
  | image source => exact .cons (.image source _ _) .nil
  | line hline => exact .cons (.line hline _ _) .nil
  | singleRow helements hwidths => exact (agrees_all helements).within (.singleRow hwidths) _ _
  | pageBreak => exact .cons .pageBreak .nil
  | catalog htitle hsections =>
    exact EventsAgree.within (.refl _) _ _
      (List.rel_append (agrees_optional htitle) (agrees_entries hsections))
  | expression id helement index => exact (agrees_optional helement).within (.refl _) _ _
  | paragraph indent h => exact (agrees_all h).within (.refl _) _ _
  | conditional h condition => exact (agrees_all h).within (.refl _) _ _
  | tableRow h | multiElement h | multiParagraph h => exact (agrees_all h).within (.refl _) _ _

theorem Kind.Rel.layerEntry {kind kind' : Kind Doc} (h : Kind.Rel DrawnInAgreement kind kind') :
    EventsAgree (layerEntry (kind.map withDrawing)) (layerEntry (kind'.map withDrawing)) := by
  cases h
  case sect level anchor title title' contents contents' htitle hcontents model =>
    cases htitle with
    | none => exact .nil
    | some h => exact h.whole.within (.refl _) [] []
  all_goals exact .nil

/-- **Equal documents are drawn in agreement**, in both roles and inside whatever is handed on to
them with the same scripts. -/
theorem drawnInAgreement_of_agree {a b : Doc} (h : a.agree b = true) : DrawnInAgreement a b := by
  induction a using induct generalizing b with
  | step head kind ih =>
    obtain ⟨head', kind'⟩ := b
    rw [agree_node_eq] at h
    obtain ⟨hflags, hkind⟩ := rel_of_agree (fun child hchild _ => ih child hchild) h
    constructor
    · exact congrArg Flags.isDeleted hflags
    · intro inherited inherited' hscript
      rw [events_node, events_node, hflags]
      split
      · exact .nil
      · exact hkind.layerEvents head head' hscript
    · rw [entry_node, entry_node]
      exact hkind.layerEntry

end Doc

/-! ## Plain text -/

namespace PlainText

open Doc (Block Event EventsAgree)

theorem enter_congr (text : PlainText) {block block' : Block} (h : block.Agrees block') :
    text.enter block = text.enter block' := by
  cases h with
  | refl => rfl
  | singleRow => rfl

theorem leave_congr (text : PlainText) {block block' : Block} (h : block.Agrees block') :
    text.leave block = text.leave block' := by
  cases h with
  | refl => rfl
  | singleRow => rfl

/-- Neither styles nor numbers have an effect. -/
theorem take_congr (text : PlainText) {event event' : Event} (h : event.Agrees event') :
    text.take event = text.take event' := by
  cases h with
  | enter h => exact text.enter_congr h
  | leave h => exact text.leave_congr h
  | line h => rw [take, take, h.1]
  | text | image | pageBreak => rfl

theorem foldl_take_congr {events events' : List Event} (h : EventsAgree events events')
    (text : PlainText) : events.foldl take text = events'.foldl take text := by
  induction h generalizing text with
  | nil => rfl
  | cons hevent _ ih => rw [List.foldl_cons, List.foldl_cons, text.take_congr hevent, ih]

end PlainText

namespace Doc

/-- **Equal documents read the same.**  Their plain texts are the same, and their drawings agree
event by event in everything except styles, numbers being compared as numbers. -/
theorem reads_same_of_agree {a b : Doc} (h : a.agree b = true) :
    a.plainText = b.plainText ∧ List.Forall₂ Event.Agrees a.events b.events := by
  have hevents : EventsAgree a.events b.events := (drawnInAgreement_of_agree h).whole
  refine ⟨?_, hevents⟩
  rw [plainText, plainText, PlainText.foldl_take_congr hevents]

/-- A text in a large span, above a line of no length and a row of no width. -/
def ruledNote (styles : List Style) (zero : Binary64) : Doc :=
  let note := node ⟨styles, .unset⟩ (.span [] ⟨some "x", none, none, none, none⟩)
  let large := node ⟨[.fontSize (.ofInt 20)], .unset⟩ (.span [note] ⟨none, none, none, none, none⟩)
  ofKind (.document none [ofKind (.paragraph false [large]),
    ofKind (.line ⟨.horizontal, zero, none⟩), ofKind (.singleRow [] (some [zero]))] none)

/-- With the defaults of a span made explicit, and with zeros of the other sign, the note is equal
to what it was.  It is drawn in other styles and other zeros, and in no other way differently. -/
theorem ruledNote_reads_same :
    let plain := ruledNote [] (.zero false)
    let explicit := ruledNote (Kind.defaultStyles .span).reverse (.zero true)
    plain.agree explicit = true ∧ plain.events ≠ explicit.events ∧
      plain.plainText = explicit.plainText ∧
        List.Forall₂ Event.Agrees plain.events explicit.events := by
  have hagree : (ruledNote [] (.zero false)).agree
      (ruledNote (Kind.defaultStyles .span).reverse (.zero true)) = true := by
    decide +kernel
  exact ⟨hagree, by decide +kernel, reads_same_of_agree hagree⟩

end Doc

end Bindery
