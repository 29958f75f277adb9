import Bindery.Proofs.Doc.Catalog
import Bindery.Proofs.Doc.Nesting

/-!
# Which references are drawn

A span that refers to an expression is given the number of that expression, and a run of text is
drawn with the number of its span.  A span that has spans draws no run of its own.  Its number is
not handed on to them as its scripts and styles are, so the runs in its drawing carry the numbers of
the leaves that are drawn, and no others (`carried_events`).

Where a number comes from can be said for every node of a numbered document, also for those that are
hidden or part of an entry: only a span that refers to an expression has one, and it is the number
of that expression (`IsNumbered.refersTo`).  Filling catalogs brings no texts that were not in the
document before, so this stays true (`exists_spanText?_of_mem_fillCatalogs`).
-/

namespace Bindery

namespace Doc

/-! ## What runs carry -/

/-- The number that a run of text carries, or that it carries none. -/
def Event.carried? : Event → Option (Option UInt32)
  | text run _ => some run.referenceIndex
  | _ => none

/-- The number of the expression that a span refers to, or that it has none. -/
def reference? (doc : Doc) : Option (Option UInt32) :=
  doc.spanText?.map SpanText.referenceIndex

/-- Whether some run of text carries a number. -/
def Carries (events : List Event) (index : UInt32) : Prop :=
  ∃ run styles, .text run styles ∈ events ∧ run.referenceIndex = some index

theorem carries_iff {events : List Event} {index : UInt32} :
    Carries events index ↔ some index ∈ events.filterMap Event.carried? := by
  rw [List.mem_filterMap]
  constructor
  · rintro ⟨run, styles, hevent, hindex⟩
    exact ⟨_, hevent, congrArg some hindex⟩
  · rintro ⟨event, hevent, hcarried⟩
    cases event with
    | text run styles => exact ⟨run, styles, hevent, Option.some.inj hcarried⟩
    | _ => exact absurd hcarried (by simp [Event.carried?])

theorem Event.Draws.carried?_eq {event : Event} {leaf : Doc} (h : event.Draws leaf) :
    event.carried? = leaf.reference? := by
  cases h <;> rfl

/-- **Nested events carry the numbers of the leaves that they draw.** -/
theorem Nests.carried {events : List Event} {leaves : List Doc} (h : Nests events leaves) :
    events.filterMap Event.carried? = leaves.filterMap reference? := by
  induction h with
  | nil => rfl
  | leaf hleaf _ ih => rw [List.filterMap_cons, List.filterMap_cons, hleaf.carried?_eq, ih]
  | @block inside events leaves leaves' block styles _ _ ihinside ih =>
    have hwithin : (Doc.within block styles inside).filterMap Event.carried? =
        inside.filterMap Event.carried? := by
      rw [Doc.within, List.filterMap_append]
      exact List.append_nil _
    rw [List.filterMap_append, List.filterMap_append, hwithin, ihinside, ih]

/-- **The numbers in the drawing of a span**: its own if it has no spans, and else those of the
leaves in it. -/
theorem carried_events {span : Doc} {number : Option UInt32} (hlive : span.isDeleted = false)
    (hspan : span.reference? = some number) (inherited : Option Inherited) :
    (span.drawing.events inherited).filterMap Event.carried? =
      if span.kind.children.isEmpty then [number]
      else (span.kind.children.flatMap (·.leaves.own)).filterMap reference? := by
  rw [(span.nests_drawing.events inherited).carried]
  obtain ⟨head, kind⟩ := span
  replace hlive : head.flags.isDeleted = false := hlive
  cases kind with
  | span spans text =>
    obtain rfl := Option.some.inj hspan
    rw [own_leaves_node, hlive]
    cases spans with
    | nil => rfl
    | cons child spans =>
      simp [Kind.isShown, Kind.isLeaf, Kind.children, Kind.entries, Doc.kind]
  | _ => exact absurd hspan (by simp [reference?, spanText?, Kind.spanText?, Doc.kind])

/-- What is drawn as a leaf is in the document. -/
theorem mem_everywhere_of_mem_leaves (doc : Doc) :
    (∀ leaf ∈ doc.leaves.own, leaf ∈ doc.everywhere) ∧
      ∀ leaf ∈ doc.leaves.entry, leaf ∈ doc.everywhere := by
  induction doc using induct with
  | step head kind ih =>
    constructor
    · intro leaf hleaf
      rw [own_leaves_node] at hleaf
      split at hleaf
      · exact absurd hleaf List.not_mem_nil
      · split at hleaf
        · rw [List.mem_singleton.1 hleaf]
          exact mem_everywhere_self _
        · rcases List.mem_append.1 hleaf with hleaf | hleaf
          · obtain ⟨child, hchild, hleaf⟩ := List.mem_flatMap.1 hleaf
            have hnode := Kind.mem_nodes.2 (Or.inl hchild)
            exact mem_everywhere_of_mem_nodes hnode ((ih child hnode).1 leaf hleaf)
          · obtain ⟨entry, hentry, hleaf⟩ := List.mem_flatMap.1 hleaf
            have hnode := Kind.mem_nodes.2 (Or.inr hentry)
            exact mem_everywhere_of_mem_nodes hnode ((ih entry hnode).2 leaf hleaf)
    · intro leaf hleaf
      rw [leaves, para_node] at hleaf
      cases kind with
      | sect level anchor title contents model =>
        cases title with
        | none => exact absurd hleaf List.not_mem_nil
        | some title =>
          have hnode : title ∈ (Kind.sect level anchor (some title) contents model).nodes :=
            List.mem_cons_self
          exact mem_everywhere_of_mem_nodes hnode ((ih title hnode).1 leaf hleaf)
      | _ => exact absurd hleaf List.not_mem_nil

/-- What is drawn as a leaf in a node is in the node. -/
theorem mem_everywhere_of_mem_flatMap_leaves {doc leaf : Doc}
    (h : leaf ∈ doc.kind.children.flatMap (·.leaves.own)) : leaf ∈ doc.everywhere := by
  obtain ⟨head, kind⟩ := doc
  obtain ⟨child, hchild, hleaf⟩ := List.mem_flatMap.1 h
  exact mem_everywhere_of_mem_nodes (Kind.mem_nodes.2 (Or.inl hchild))
    (child.mem_everywhere_of_mem_leaves.1 leaf hleaf)

/-- What is in a node of a document is in the document. -/
theorem everywhere_subset {doc node' : Doc} (h : node' ∈ doc.everywhere) :
    node'.everywhere ⊆ doc.everywhere := by
  induction doc using induct with
  | step head kind ih =>
    rw [everywhere_node, List.mem_cons] at h
    rcases h with rfl | h
    · exact List.Subset.refl _
    · obtain ⟨child, hchild, h⟩ := List.mem_flatMap.1 h
      exact fun below hbelow => mem_everywhere_of_mem_nodes hchild (ih child hchild h hbelow)

/-! ## Where numbers come from -/

/-- Whether a span refers to an expression of the document that has the given number. -/
def RefersTo (doc span : Doc) (index : UInt32) : Prop :=
  ∃ text id, span.spanText? = some text ∧ text.reference = some id ∧
    (doc.firstExpression? id).bind expressionIndex? = some index

/-- The text of a span with a number. -/
theorem exists_of_reference? {span : Doc} {index : UInt32}
    (h : span.reference? = some (some index)) :
    ∃ text, span.spanText? = some text ∧ text.referenceIndex = some index :=
  Option.map_eq_some_iff.1 h

/-- **A span with a number refers to the expression with that number**, wherever it is in a numbered
document whose catalogs are not filled. -/
theorem IsNumbered.refersTo {doc span : Doc} {index : UInt32} (h : doc.IsNumbered)
    (hcatalogs : ∀ node' ∈ doc.everywhere, node'.kind.IsUncataloged) (hspan : span ∈ doc.everywhere)
    (hindex : span.reference? = some (some index)) : doc.RefersTo span index := by
  obtain ⟨text, htext, hindex⟩ := exists_of_reference? hindex
  rcases live_or_hidden_of_mem_everywhere hspan with hlive | hhidden | ⟨catalog, hlive, hentry⟩
  · have hreference := h.references text (List.mem_filterMap.2 ⟨span, hlive, htext⟩)
    obtain ⟨id, hid, hnumber⟩ := Option.bind_eq_some_iff.1 (hreference.symm.trans hindex)
    exact ⟨text, id, htext, hid, hnumber⟩
  · have hnone := (h.hidden span hhidden).of_spanText? htext
    exact absurd (hnone.symm.trans hindex) (by simp)
  · obtain ⟨entry, hentry, -⟩ := hentry
    rw [(hcatalogs catalog (mem_everywhere_of_mem_live hlive)).entries] at hentry
    exact absurd hentry List.not_mem_nil

section Catalog

variable {doc : Doc}

/-- Whether the text of a layer, if it has one, is that of some node of the document. -/
def HasText (doc : Doc) (kind : Kind Unit) : Prop :=
  ∀ text, kind.spanText? = some text → ∃ met ∈ doc.everywhere, met.spanText? = some text

/-- **Filling catalogs brings no new texts.** -/
theorem exists_spanText?_of_mem_fillCatalogs {node' : Doc} {text : SpanText}
    (hnode : node' ∈ doc.fillCatalogs.everywhere) (htext : node'.spanText? = some text) :
    ∃ met ∈ doc.everywhere, met.spanText? = some text := by
  have hnote (met : Doc) (kind' : Kind Doc) (n : Nat) (hshape : kind'.shape = met.kind.shape)
      (hmet : doc.HasText met.kind.shape) :
      doc.HasText (kind'.annotate (catalogNote doc.catalogEntries n met)).shape := by
    intro text htext
    have hsame := spanText?_annotate_catalogNote doc.catalogEntries met n hshape
    rw [Kind.spanText?_shape] at htext
    refine hmet text ?_
    rw [Kind.spanText?_shape]
    exact hsame.symm.trans htext
  have hself : ∀ met ∈ doc.everywhere, doc.HasText met.kind.shape := fun met hmet text htext =>
    ⟨met, hmet, (Kind.spanText?_shape met.kind).symm.trans htext⟩
  have hsections (n : Nat) (met : Doc) (sections : List Doc)
      (hbrought : catalogNote doc.catalogEntries n met = .sections sections) :
      ∀ entry ∈ sections, ∀ node' ∈ entry.everywhere, doc.HasText node'.kind.shape := by
    intro entry hentry node' hnode
    rcases of_catalogNote_eq_sections hbrought hentry hnode with hsect | hnode
    · intro text htext
      obtain ⟨head, kind⟩ := node'
      cases kind with
      | sect => exact absurd htext (by simp [Doc.kind, Kind.shape, Kind.map, Kind.spanText?])
      | _ => exact NodeKind.noConfusion hsect
    · exact hself node' hnode
  have hshapes : ∀ node' ∈ (walk isTitled (catalogNote doc.catalogEntries) doc 0).1.everywhere,
      doc.HasText node'.kind.shape :=
    shape_everywhere_walk hnote hsections hself
  exact hshapes node' hnode text ((Kind.spanText?_shape _).trans htext)

/-- **A span with a number still refers to the expression with that number** after catalogs are
filled, also in the entries. -/
theorem IsNumbered.refersTo_fillCatalogs {span : Doc} {index : UInt32} (h : doc.IsNumbered)
    (hcatalogs : ∀ node' ∈ doc.everywhere, node'.kind.IsUncataloged)
    (hspan : span ∈ doc.fillCatalogs.everywhere) (hindex : span.reference? = some (some index)) :
    doc.fillCatalogs.RefersTo span index := by
  obtain ⟨text, htext, hnumber⟩ := exists_of_reference? hindex
  obtain ⟨met, hmet, hsame⟩ := exists_spanText?_of_mem_fillCatalogs hspan htext
  have hreference : met.reference? = some (some index) := by
    rw [reference?, hsame, Option.map_some, hnumber]
  obtain ⟨text', id, htext', hid, hindex'⟩ := h.refersTo hcatalogs hmet hreference
  obtain rfl := Option.some.inj (hsame.symm.trans htext')
  have hexpressions : doc.fillCatalogs.live.filterMap expression? =
      doc.live.filterMap expression? :=
    filterMap_live_annotate (fun met kind' n hshape =>
      expression?_annotate_catalogNote doc.catalogEntries met n hshape) doc
  refine ⟨text, id, htext, hid, ?_⟩
  rwa [bind_firstExpression?, hexpressions, ← bind_firstExpression?]

end Catalog

end Doc

end Bindery
