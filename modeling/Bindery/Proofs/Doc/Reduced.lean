import Bindery.Binding.Document
import Bindery.Proofs.Doc.Catalog
import Bindery.Proofs.Doc.Drawing
import Bindery.Proofs.Doc.Equality

/-!
# Documents with one style of each kind

A list of styles may name a kind twice, and then the later style counts.  In the *reduced* document
every list of styles names each kind once.  Nothing that is done with documents tells the two apart:
they are equal to the same documents (`agree_reduced`), they have the same drawing
(`drawing_reduced`), and reducing commutes with the walks through a document, so a reduced document
is finished to the reduced one (`finish_reduced`).

Equality and drawing see the styles of a node only after they are completed by defaults, with one
exception: a span inside of a span asks whether it has any styles of its own.  Reducing a list does
not make it empty, so the answer is the same.
-/

namespace Bindery

namespace Doc

/-- The head of a node with one style of each kind. -/
def Head.reduced (head : Head) : Head :=
  { head with styles := Style.dedup head.styles }

/-- The document with one style of each kind at every node. -/
def reduced : Doc → Doc :=
  fold fun head kind => node head.reduced kind

theorem reduced_node (head : Head) (kind : Kind Doc) :
    reduced (node head kind) = node head.reduced (kind.map reduced) :=
  fold_node _ head kind

@[simp] theorem effectiveStyles_reduced (head : Head) (kind : NodeKind) :
    effectiveStyles head.reduced.styles kind = effectiveStyles head.styles kind :=
  Style.merge_dedup _ _

@[simp] theorem isDeleted_reduced (doc : Doc) : doc.reduced.isDeleted = doc.isDeleted := by
  obtain ⟨head, kind⟩ := doc
  rw [reduced_node]
  rfl

theorem kind_reduced (doc : Doc) : doc.reduced.kind = doc.kind.map reduced := by
  obtain ⟨head, kind⟩ := doc
  rw [reduced_node]
  rfl

@[simp] theorem isEmpty_reduced (doc : Doc) : doc.reduced.isEmpty = doc.isEmpty := by
  induction doc using induct with
  | step head kind ih =>
    have hlayer : (kind.map reduced).map isEmpty = kind.map isEmpty := by
      rw [Kind.map_map]
      exact Kind.map_congr ih
    simp only [isEmpty] at hlayer ⊢
    rw [reduced_node, fold_node, fold_node, hlayer]

/-! ## Equality and drawing -/

/-- **Equality does not tell** whether styles are reduced. -/
@[simp] theorem agree_reduced (a b : Doc) : a.reduced.agree b.reduced = a.agree b := by
  induction a using induct generalizing b with
  | step head kind ih =>
    obtain ⟨head', kind'⟩ := b
    have hbelow : ∀ child ∈ (parts head.reduced kind).nodes, ∀ other : Doc,
        child.reduced.agree other.reduced = child.agree other := by
      rw [nodes_parts]
      exact ih
    rw [reduced_node, reduced_node, agree_node_eq, agree_node_eq, parts_map, parts_map,
      NodeFamily.agree_map_map _ hbelow]
    refine NodeFamily.agree_congr_styles (a := parts head kind) (b := parts head' kind') ?_
    show Style.sameSet (effectiveStyles head.reduced.styles kind.nodeKind)
      (effectiveStyles head'.reduced.styles kind'.nodeKind) = _
    rw [effectiveStyles_reduced, effectiveStyles_reduced]
    rfl

@[simp] theorem reduced_reduced (doc : Doc) : doc.reduced.reduced = doc.reduced := by
  induction doc using induct with
  | step head kind ih =>
    have hhead : head.reduced.reduced = head.reduced := by
      simp only [Head.reduced, Style.dedup_dedup]
    have hlayer : (kind.map reduced).map reduced = kind.map reduced := by
      rw [Kind.map_map]
      exact Kind.map_congr ih
    rw [reduced_node, reduced_node, hhead, hlayer]

/-- The reduced document is equal to the document. -/
theorem agree_reduced_self (doc : Doc) : doc.reduced.agree doc = true := by
  rw [← agree_reduced, reduced_reduced, agree_self]

/-- A layer is drawn from its styles in full and from whether it has any of its own. -/
theorem layerEvents_reduced (head : Head) (kind : Kind (Doc × Drawing))
    (inherited : Option Inherited) :
    layerEvents head.reduced kind inherited = layerEvents head kind inherited := by
  have hinherited (text : SpanText) :
      Inherited.ofSpan head.reduced.styles text inherited =
        Inherited.ofSpan head.styles text inherited := by
    cases inherited with
    | none => simp only [Inherited.ofSpan, effectiveStyles_reduced]
    | some outer =>
      have hempty : head.reduced.styles.isEmpty = head.styles.isEmpty := Style.isEmpty_dedup _
      simp only [Inherited.ofSpan, effectiveStyles_reduced, hempty]
  cases kind with
  | span spans text => simp only [layerEvents, hinherited]
  | _ => simp only [layerEvents, effectiveStyles_reduced]

/-- **Drawing does not tell** whether styles are reduced. -/
@[simp] theorem drawing_reduced (doc : Doc) : doc.reduced.drawing = doc.drawing := by
  induction doc using induct with
  | step head kind ih =>
    have hlayer (inherited : Option Inherited) :
        layerEvents head.reduced ((kind.map reduced).map withDrawing) inherited =
          layerEvents head (kind.map withDrawing) inherited := by
      rw [layerEvents_reduced, Kind.map_map]
      refine layerEvents_congr head kind inherited (fun child hchild => ⟨?_, fun inherited => ?_⟩)
        fun entry hentry => ?_
      · exact isDeleted_reduced child
      · exact congrArg (·.events inherited) (ih child (Kind.mem_nodes.2 (Or.inl hchild)))
      · exact congrArg (·.entry) (ih entry (Kind.mem_nodes.2 (Or.inr hentry)))
    have hentry : layerEntry ((kind.map reduced).map withDrawing) =
        layerEntry (kind.map withDrawing) := by
      cases kind with
      | sect level anchor title contents model =>
        cases title with
        | none => rfl
        | some title =>
          have htitle := ih title (by simp [Kind.nodes])
          exact congrArg (within (.catalogEntry level anchor) [] ·.whole) htitle
      | _ => rfl
    have hevents : (layerDrawing head.reduced ((kind.map reduced).map withDrawing)).events =
        (layerDrawing head (kind.map withDrawing)).events := by
      funext inherited
      show (if head.flags.isDeleted then [] else layerEvents head.reduced _ inherited) = _
      rw [hlayer]
      rfl
    rw [reduced_node, drawing_node, drawing_node]
    show Drawing.mk (layerDrawing head.reduced _).events (layerEntry _) =
      ⟨(layerDrawing head _).events, layerEntry _⟩
    exact congr (congrArg Drawing.mk hevents) hentry

theorem events_reduced (doc : Doc) : doc.reduced.events = doc.events := by
  rw [events, drawing_reduced, events]

/-! ## Walks -/

/-- A note for the reduced document. -/
def Note.reduced : Note → Note
  | .sections entries => .sections (entries.map Doc.reduced)
  | note => note

theorem Kind.annotate_reduced (note : Note) (kind : Kind Doc) :
    (kind.map Doc.reduced).annotate note.reduced = (kind.annotate note).map Doc.reduced := by
  cases note <;> cases kind <;> rfl

/-- **Walking commutes with reducing**, if counting does not tell and notes are reduced as well. -/
theorem walk_reduced {counts : Doc → Bool} {note note' : Nat → Doc → Note}
    (hcounts : ∀ doc, counts doc.reduced = counts doc)
    (hnote : ∀ n doc, note' n doc.reduced = (note n doc).reduced) (doc : Doc) (n : Nat) :
    walk counts note' doc.reduced n = Prod.map reduced id (walk counts note doc n) := by
  induction doc using induct generalizing n with
  | step head kind ih =>
    have hbelow (child : Doc) (hchild : child ∈ kind.children) :
        annotateFrom counts note' child.reduced = reduced <$> annotateFrom counts note child :=
      funext fun n => ih child (Kind.mem_nodes.2 (Or.inl hchild)) n
    have hflags : head.reduced.flags = head.flags := rfl
    cases hlive : head.flags.isDeleted with
    | true =>
      rw [walk_of_isDeleted hlive, reduced_node, walk_of_isDeleted (hflags ▸ hlive), Prod.map,
        reduced_node]
      rfl
    | false =>
      have hlayer (m : Nat) : walkLayer counts note' (kind.map reduced) m =
          Prod.map (Kind.map reduced) id (walkLayer counts note kind m) :=
        congrArg (fun action => (action.run m).run) (Kind.traverse_map_comm hbelow)
      have hcount : count counts (node head.reduced (kind.map reduced)) n =
          count counts (node head kind) n := by
        rw [count, ← reduced_node, hcounts, count]
      rw [reduced_node, walk_of_isDeleted_eq_false counts note' (hflags ▸ hlive),
        walk_of_isDeleted_eq_false counts note hlive, hcount, hlayer, ← reduced_node, hnote]
      simp only [Prod.map, id, reduced_node, Kind.annotate_reduced]

/-- The live nodes of the reduced document are the reduced ones. -/
theorem live_reduced (doc : Doc) : doc.reduced.live = doc.live.map reduced := by
  induction doc using induct with
  | step head kind ih =>
    have hflags : head.reduced.flags = head.flags := rfl
    rw [reduced_node, live_node, live_node, hflags]
    split
    · rfl
    · rw [Kind.children_map, List.flatMap_map, List.map_cons, reduced_node, List.map_flatMap]
      refine congrArg (node head.reduced (kind.map reduced) :: ·) (List.flatMap_congr ?_)
      exact fun child hchild => ih child (Kind.mem_nodes.2 (Or.inl hchild))

theorem expressionId?_reduced (doc : Doc) : doc.reduced.expressionId? = doc.expressionId? := by
  rw [expressionId?, expressionId?, kind_reduced]
  cases doc.kind <;> rfl

theorem numberExpressions_reduced (doc : Doc) :
    doc.reduced.numberExpressions = doc.numberExpressions.reduced := by
  have hids : doc.reduced.expressionIds = doc.expressionIds := by
    rw [expressionIds, live_reduced, List.filterMap_map]
    exact List.filterMap_congr fun met _ => expressionId?_reduced met
  rw [numberExpressions, numberExpressions, hids, annotate_eq_walk, annotate_eq_walk]
  refine congrArg Prod.fst (walk_reduced (fun met => ?_) (fun n met => ?_) doc 0)
  · rw [isExpression, isExpression, nodeKind, kind_reduced, Kind.nodeKind_map, nodeKind]
  · rw [numberNote, numberNote, kind_reduced]
    cases met.kind with
    | span spans text =>
      simp only [Kind.map]
      cases text.reference <;> rfl
    | _ => rfl

theorem isTitled_reduced (doc : Doc) : doc.reduced.isTitled = doc.isTitled := by
  rw [isTitled, isTitled, kind_reduced]
  cases doc.kind with
  | sect level anchor title contents model => exact Option.isSome_map
  | _ => rfl

theorem catalogEntry_reduced (before : Nat) (titled : Doc) :
    catalogEntry before titled.reduced = (catalogEntry before titled).reduced := by
  obtain ⟨head, kind⟩ := titled
  cases kind with
  | sect level anchor title contents model =>
    simp only [reduced_node, catalogEntry, Kind.map, List.map_nil]
    rfl
  | _ => simp only [reduced_node, catalogEntry, Kind.map]

theorem fillCatalogs_reduced (doc : Doc) : doc.reduced.fillCatalogs = doc.fillCatalogs.reduced := by
  have hentries : doc.reduced.catalogEntries = doc.catalogEntries.map reduced := by
    have htitled : doc.reduced.titledSections = doc.titledSections.map reduced := by
      rw [titledSections, live_reduced, List.filter_map]
      exact congrArg (List.map reduced) (List.filter_congr fun met _ => isTitled_reduced met)
    rw [catalogEntries, htitled, List.zipIdx_map, List.map_map, catalogEntries, List.map_map]
    exact List.map_congr_left fun item _ => catalogEntry_reduced item.2 item.1
  rw [fillCatalogs, fillCatalogs, hentries, annotate_eq_walk, annotate_eq_walk]
  refine congrArg Prod.fst (walk_reduced isTitled_reduced (fun n met => ?_) doc 0)
  rw [catalogNote, catalogNote, kind_reduced]
  cases met.kind with
  | sect level anchor title contents model => cases title <;> rfl
  | _ => rfl

/-- **A reduced document is finished to the reduced one.** -/
theorem finish_reduced (options : Options) (doc : Doc) :
    options.finish doc.reduced = (options.finish doc).reduced := by
  have hnumbers :
      (if options.numberExpressions then doc.reduced.numberExpressions else doc.reduced) =
        (if options.numberExpressions then doc.numberExpressions else doc).reduced := by
    split
    · exact numberExpressions_reduced doc
    · rfl
  simp only [Options.finish, hnumbers]
  split
  · exact fillCatalogs_reduced _
  · rfl

end Doc

end Bindery
