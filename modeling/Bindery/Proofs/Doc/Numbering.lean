import Bindery.Doc.Numbering
import Bindery.Proofs.Doc.Walk

/-!
# Expressions are numbered in document order

A document is numbered (`IsNumbered`) if the live expressions carry one, two, three and so on in
document order, every live span that refers to an expression carries the number of the first one
with that id, and nothing else carries a number: no span without a reference, none whose reference
leads nowhere, and nothing that is hidden from the walk.

The numbers themselves come from the walk (`filterMap_expression_numberExpressions`).  References
are resolved from the ids of all expressions as they stood before, while `IsNumbered` speaks of the
first expression in the document as it is afterwards.  The two agree because numbering keeps every
id in its place, so it does not matter whether the expression stands before the span or after it.

Whether a document is numbered can be read off its expressions, its texts and what is hidden
(`IsNumbered.congr`), which is why it stays numbered when its catalogs are filled.
-/

namespace Bindery

namespace Doc

namespace Kind

variable {α : Type}

/-- The id and the number of an expression. -/
def expression? : Kind α → Option (Option String × UInt32)
  | expression id _ index => some (id, index)
  | _ => none

/-- The text of a span. -/
def spanText? : Kind α → Option SpanText
  | span _ text => some text
  | _ => none

/-- No number has been given to a node, neither its own nor that of an expression it refers to. -/
def IsUnnumbered : Kind α → Prop
  | span _ text => text.referenceIndex = none
  | expression _ _ index => index = 0
  | _ => True

@[simp] theorem expression?_shape (kind : Kind α) : kind.shape.expression? = kind.expression? := by
  cases kind <;> rfl

@[simp] theorem isUnnumbered_shape (kind : Kind α) :
    kind.shape.IsUnnumbered ↔ kind.IsUnnumbered := by
  cases kind <;> exact Iff.rfl

@[simp] theorem spanText?_shape (kind : Kind α) : kind.shape.spanText? = kind.spanText? := by
  cases kind <;> rfl

theorem expression?_congr {kind kind' : Kind α} (h : kind'.shape = kind.shape) :
    kind'.expression? = kind.expression? := by
  rw [← expression?_shape, h, expression?_shape]

theorem spanText?_congr {kind kind' : Kind α} (h : kind'.shape = kind.shape) :
    kind'.spanText? = kind.spanText? := by
  rw [← spanText?_shape, h, spanText?_shape]

theorem expression?_annotate (note : Note) (kind : Kind Doc) :
    (kind.annotate note).expression? =
      match note with
      | .index index => kind.expression?.map fun item => (item.1, index)
      | _ => kind.expression? := by
  cases note <;> cases kind <;> rfl

theorem spanText?_annotate (note : Note) (kind : Kind Doc) :
    (kind.annotate note).spanText? =
      match note with
      | .referenceIndex index =>
        kind.spanText?.map fun text => { text with referenceIndex := index }
      | _ => kind.spanText? := by
  cases note <;> cases kind <;> rfl

/-- A span that has no number. -/
theorem IsUnnumbered.of_spanText? {kind : Kind α} {text : SpanText} (h : kind.IsUnnumbered)
    (htext : kind.spanText? = some text) : text.referenceIndex = none := by
  cases kind with
  | span spans own =>
    obtain rfl := Option.some.inj htext
    exact h
  | _ => exact absurd htext (by simp [spanText?])

end Kind

/-- The id and the number of an expression. -/
def expression? (doc : Doc) : Option (Option String × UInt32) :=
  doc.kind.expression?

/-- The number of an expression. -/
def expressionIndex? (doc : Doc) : Option UInt32 :=
  doc.expression?.map Prod.snd

/-- The text of a span. -/
def spanText? (doc : Doc) : Option SpanText :=
  doc.kind.spanText?

/-- The first live expression with an id. -/
def firstExpression? (doc : Doc) (id : String) : Option Doc :=
  doc.live.find? fun met => met.expressionId? == some (some id)

/-- **Numbered documents.** -/
structure IsNumbered (doc : Doc) : Prop where
  /-- The live expressions are numbered from one, in document order.  A number has 32 bits. -/
  indices : doc.live.filterMap expressionIndex? =
    (List.range (doc.live.countP isExpression)).map fun before => UInt32.ofNat (before + 1)
  /-- A live span has the number of the first live expression with the id that it refers to, and
  none if it refers to none or there is none. -/
  references : ∀ text ∈ doc.live.filterMap spanText?,
    text.referenceIndex = text.reference.bind fun id =>
      (doc.firstExpression? id).bind expressionIndex?
  /-- What is deleted or stands below a deleted node has no number. -/
  hidden : ∀ node' ∈ doc.hidden, node'.kind.IsUnnumbered

/-! ## What numbers are read off from -/

theorem expressionId?_eq_map (doc : Doc) : doc.expressionId? = doc.expression?.map Prod.fst := by
  obtain ⟨head, kind⟩ := doc
  cases kind <;> rfl

theorem isExpression_eq_isSome (doc : Doc) : doc.isExpression = doc.expression?.isSome := by
  obtain ⟨head, kind⟩ := doc
  cases kind <;> rfl

theorem countP_isExpression (docs : List Doc) :
    docs.countP isExpression = (docs.filterMap expression?).length := by
  rw [List.length_filterMap_eq_countP]
  exact congrArg (docs.countP ·) (funext isExpression_eq_isSome)

theorem filterMap_expressionIndex? (docs : List Doc) :
    docs.filterMap expressionIndex? = (docs.filterMap expression?).map Prod.snd := by
  rw [List.map_filterMap]
  rfl

/-- The number of the first expression with an id, from the ids and numbers alone. -/
theorem bind_firstExpression? (doc : Doc) (id : String) :
    (doc.firstExpression? id).bind expressionIndex? =
      ((doc.live.filterMap expression?).find? fun item => item.1 == some id).map Prod.snd := by
  have hid (met : Doc) : (met.expression?.any fun item => item.1 == some id) =
      (met.expressionId? == some (some id)) := by
    rw [expressionId?_eq_map]
    cases met.expression? <;> rfl
  rw [List.find?_filterMap, firstExpression?, Option.map_bind]
  simp only [hid]
  rfl

/-- Whether a document is numbered depends on the ids and numbers of the live expressions, the texts
of the live spans and what is hidden. -/
theorem IsNumbered.congr {doc doc' : Doc} (h : doc.IsNumbered)
    (hexpressions : doc'.live.filterMap expression? = doc.live.filterMap expression?)
    (htexts : doc'.live.filterMap spanText? = doc.live.filterMap spanText?)
    (hhidden : ∀ node' ∈ doc'.hidden, node'.kind.IsUnnumbered) : doc'.IsNumbered where
  indices := by
    have hindices := h.indices
    rwa [filterMap_expressionIndex?, countP_isExpression, ← hexpressions,
      ← filterMap_expressionIndex?, ← countP_isExpression] at hindices
  references text htext := by
    rw [htexts] at htext
    have hreference := h.references text htext
    simp only [bind_firstExpression?] at hreference ⊢
    rwa [hexpressions]
  hidden := hhidden

/-! ## The numbers that a walk gives -/

/-- The text of a span with its reference resolved. -/
def resolved (ids : List (Option String)) (text : SpanText) : SpanText :=
  match text.reference with
  | some id => { text with referenceIndex := indexOf? ids id }
  | none => text

section Note

variable (ids : List (Option String)) (met : Doc) {kind' : Kind Doc}

theorem expression?_annotate_numberNote (n : Nat) (h : kind'.shape = met.kind.shape) :
    (kind'.annotate (numberNote ids n met)).expression? =
      met.expressionId?.map fun id => (id, UInt32.ofNat (n + 1)) := by
  obtain ⟨head, kind⟩ := met
  rw [Kind.expression?_annotate, Kind.expression?_congr h]
  cases kind with
  | span spans text =>
    simp only [numberNote, Doc.kind]
    cases text.reference <;> rfl
  | _ => rfl

theorem spanText?_annotate_numberNote (n : Nat) (h : kind'.shape = met.kind.shape) :
    (kind'.annotate (numberNote ids n met)).spanText? = met.spanText?.map (resolved ids) := by
  obtain ⟨head, kind⟩ := met
  rw [Kind.spanText?_annotate, Kind.spanText?_congr h]
  cases kind with
  | span spans text =>
    cases href : text.reference <;>
      simp [numberNote, spanText?, Kind.spanText?, Doc.kind, resolved, href]
  | _ => rfl

/-- Numbering gives nothing but numbers. -/
theorem numberNote_cases (n : Nat) :
    (∃ index, numberNote ids n met = .index index) ∨
      (∃ index, numberNote ids n met = .referenceIndex index) ∨
      numberNote ids n met = .nothing := by
  obtain ⟨head, kind⟩ := met
  cases kind with
  | span spans text => cases href : text.reference <;> simp [numberNote, Doc.kind, href]
  | _ => simp [numberNote, Doc.kind]

theorem numberNote_ne_sections (n : Nat) (sections : List Doc) :
    numberNote ids n met ≠ .sections sections := by
  rcases numberNote_cases ids met n with ⟨index, h⟩ | ⟨index, h⟩ | h <;> simp [h]

end Note

/-- What goes with the first of some ids, if it depends on its place. -/
theorem find?_zipIdx (ids : List (Option String)) (id : Option String) (k : Nat → UInt32)
    (n : Nat) :
    (((ids.zipIdx n).map fun item => (item.1, k item.2)).find? fun item => item.1 == id).map
        Prod.snd =
      (ids.idxOf? id).map fun before => k (n + before) := by
  induction ids generalizing n with
  | nil => rfl
  | cons first ids ih =>
    rw [List.zipIdx_cons, List.map_cons, List.find?_cons, List.idxOf?_cons]
    cases hfirst : first == id with
    | true => simp
    | false =>
      simp only [Bool.false_eq_true, if_false, ih, Option.map_map]
      refine congrArg (Option.map · _) (funext fun before => ?_)
      rw [Function.comp_apply, Nat.add_right_comm, Nat.add_assoc]

/-- **Numbers in document order.**  Numbering keeps the ids of the live expressions in their places
and numbers them from one. -/
theorem filterMap_expression_numberExpressions (doc : Doc) :
    doc.numberExpressions.live.filterMap expression? =
      doc.expressionIds.zipIdx.map fun item => (item.1, UInt32.ofNat (item.2 + 1)) := by
  have hcounts (met : Doc) : isExpression met = met.expressionId?.isSome := by
    rw [isExpression_eq_isSome, expressionId?_eq_map, Option.isSome_map]
  rw [numberExpressions,
    filterMap_live_annotate_counted fun met kind' n h => expression?_annotate_numberNote _ met n h,
    filterMap_countedFrom hcounts fun id before => (id, UInt32.ofNat (before + 1))]
  rfl

/-- A live span gets the number of the expression that it refers to, and keeps its text. -/
theorem filterMap_spanText_numberExpressions (doc : Doc) :
    doc.numberExpressions.live.filterMap spanText? =
      (doc.live.filterMap spanText?).map (resolved doc.expressionIds) := by
  rw [numberExpressions,
    filterMap_live_annotate fun met kind' n h => spanText?_annotate_numberNote _ met n h,
    List.map_filterMap]

/-- **Numbering numbers a document** in which nothing was numbered before. -/
theorem isNumbered_numberExpressions {doc : Doc}
    (h : ∀ node' ∈ doc.everywhere, node'.kind.IsUnnumbered) : doc.numberExpressions.IsNumbered where
  indices := by
    rw [filterMap_expressionIndex?, countP_isExpression, filterMap_expression_numberExpressions,
      List.map_map, List.length_map, List.length_zipIdx, List.range_eq_range',
      ← List.zipIdx_map_snd, List.map_map]
    rfl
  references text htext := by
    rw [filterMap_spanText_numberExpressions] at htext
    obtain ⟨before, hbefore, rfl⟩ := List.mem_map.1 htext
    cases href : before.reference with
    | none =>
      obtain ⟨met, hmet, htext⟩ := List.mem_filterMap.1 hbefore
      have hnone := (h met (mem_everywhere_of_mem_live hmet)).of_spanText? htext
      simp [resolved, href, hnone]
    | some id =>
      have hfind := find?_zipIdx doc.expressionIds (some id) (fun n => UInt32.ofNat (n + 1)) 0
      simp only [resolved, href, Option.bind_some, bind_firstExpression?]
      rw [filterMap_expression_numberExpressions, hfind]
      simp [indexOf?]
  hidden node' hnode := by
    rcases mem_hidden_walk hnode with hnode | ⟨before, met, sections, hnote, -⟩
    · exact h node' (mem_everywhere_of_mem_hidden hnode)
    · exact absurd hnote (numberNote_ne_sections _ _ _ _)

end Doc

end Bindery
