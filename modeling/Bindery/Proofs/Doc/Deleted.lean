import Bindery.Proofs.Doc.Drawing

/-!
# Deleted nodes are not drawn

Two documents that differ in deleted nodes only should look the same, whatever the deleted nodes are
and wherever they stand.  `DiffersInDeleted` says of two documents that one can be made from the
other by putting other deleted nodes in place of deleted ones.

This is almost so.  Drawing skips a deleted node in every place but one: it draws an entry of a
catalog without asking whether the entry is deleted (`deletedEntry_drawn_otherwise`).  Of an entry,
however, it draws nothing but the title, within a block for the level and the anchor.  So the
statement becomes true if of two entries these are compared, as sections that are not deleted
(`heading`), and everything else is compared as before (`events_eq_of_differsInDeleted`).

`DiffersInDeleted` takes what is compared of an entry as an argument, so that both statements are
about the same relation.  The proof is by induction on the relation, for all that is handed on to a
document and for both of its roles: a node that is not deleted is drawn as an entry in the same way,
too, which is what is needed of headings.
-/

namespace Bindery

namespace Doc

/-- **Documents that differ in deleted nodes only.**  Of the entries of catalogs only the given part
is compared. -/
inductive DiffersInDeleted (asEntry : Doc → Doc) : Doc → Doc → Prop
  /-- A deleted node may be replaced by any other. -/
  | deleted {doc doc' : Doc} (h : doc.isDeleted = true) (h' : doc'.isDeleted = true) :
      DiffersInDeleted asEntry doc doc'
  /-- Other nodes are the same, but for the nodes in them. -/
  | node (head : Head) (pairs : Kind (Doc × Doc))
      (children : ∀ pair ∈ pairs.children, DiffersInDeleted asEntry pair.1 pair.2)
      (entries : ∀ pair ∈ pairs.entries,
        DiffersInDeleted asEntry (asEntry pair.1) (asEntry pair.2)) :
      DiffersInDeleted asEntry (node head (pairs.map Prod.fst)) (node head (pairs.map Prod.snd))

/-- What is drawn of an entry: a section with a title, and nothing of any other node. -/
def heading : Doc → Doc
  | node _ (.sect level anchor (some title) _ _) =>
    ofKind (.sect level anchor (some title) [] none)
  | _ => ofKind .pageBreak

theorem isDeleted_heading (doc : Doc) : doc.heading.isDeleted = false := by
  unfold heading
  split <;> rfl

theorem entry_heading (doc : Doc) : doc.heading.drawing.entry = doc.drawing.entry := by
  obtain ⟨head, kind⟩ := doc
  rw [entry_node]
  cases kind with
  | sect level anchor title contents model =>
    cases title with
    | none => rfl
    | some title => exact entry_node _ _
  | _ => rfl

/-- What is to be shown of two documents by induction. -/
structure SameDrawing (doc doc' : Doc) : Prop where
  isDeleted : doc.isDeleted = doc'.isDeleted
  events : ∀ inherited, doc.drawing.events inherited = doc'.drawing.events inherited
  entry : doc.isDeleted = false → doc.drawing.entry = doc'.drawing.entry

/-- A layer is drawn as an entry in the same way if the nodes in it are drawn in the same way. -/
theorem layerEntry_congr {pairs : Kind (Doc × Doc)}
    (h : ∀ pair ∈ pairs.children, SameDrawing pair.1 pair.2) :
    layerEntry ((pairs.map Prod.fst).map withDrawing) =
      layerEntry ((pairs.map Prod.snd).map withDrawing) := by
  cases pairs with
  | sect level anchor title contents model =>
    cases title with
    | none => rfl
    | some pair =>
      have htitle : pair.1.drawing.whole = pair.2.drawing.whole :=
        (h pair (List.mem_append_left _ List.mem_cons_self)).events none
      exact congrArg (within (.catalogEntry level anchor) []) htitle
  | _ => rfl

/-- **Documents that differ in deleted nodes only have the same drawing** if headings are compared
of their entries. -/
theorem sameDrawing_of_differsInDeleted {doc doc' : Doc}
    (h : DiffersInDeleted heading doc doc') : SameDrawing doc doc' := by
  induction h with
  | deleted h h' =>
    refine ⟨h.trans h'.symm, fun inherited => ?_, fun hlive => ?_⟩
    · rw [events_of_isDeleted h, events_of_isDeleted h']
    · exact absurd h (by simp [hlive])
  | node head pairs _ _ ihChildren ihEntries =>
    refine ⟨rfl, fun inherited => ?_, fun _ => ?_⟩
    · have hlayer : layerEvents head ((pairs.map Prod.fst).map withDrawing) inherited =
          layerEvents head ((pairs.map Prod.snd).map withDrawing) inherited := by
        rw [Kind.map_map, Kind.map_map]
        refine layerEvents_congr head pairs inherited (fun pair hpair => ?_) fun pair hpair => ?_
        · exact ⟨(ihChildren pair hpair).isDeleted, (ihChildren pair hpair).events⟩
        · -- a heading is not deleted, and is drawn as an entry just as the entry is
          have hheading := (ihEntries pair hpair).entry (isDeleted_heading pair.1)
          rwa [entry_heading, entry_heading] at hheading
      rw [events_node, events_node, hlayer]
    · rw [entry_node, entry_node]
      exact layerEntry_congr ihChildren

/-- **Deleted content is not drawn**, apart from the titles of entries. -/
theorem events_eq_of_differsInDeleted {doc doc' : Doc} (h : DiffersInDeleted heading doc doc') :
    doc.events = doc'.events :=
  (sameDrawing_of_differsInDeleted h).events none

/-- A document differs from itself in nothing. -/
theorem differsInDeleted_refl (doc : Doc) :
    DiffersInDeleted heading doc doc ∧ DiffersInDeleted heading doc.heading doc.heading := by
  induction doc using induct with
  | step head kind ih =>
    constructor
    · have hpairs : ∀ pair ∈ (kind.map fun child => (child, child)).nodes,
          DiffersInDeleted heading pair.1 pair.2 ∧
            DiffersInDeleted heading pair.1.heading pair.2.heading := by
        rw [Kind.nodes_map]
        intro pair hpair
        obtain ⟨child, hchild, rfl⟩ := List.mem_map.1 hpair
        exact ih child hchild
      have hnode := DiffersInDeleted.node head (kind.map fun child => (child, child))
        (fun pair hpair => (hpairs pair (Kind.mem_nodes.2 (Or.inl hpair))).1)
        (fun pair hpair => (hpairs pair (Kind.mem_nodes.2 (Or.inr hpair))).2)
      rw [Kind.map_map, Kind.map_map] at hnode
      exact (kind.map_id).symm ▸ hnode
    · have hblank : DiffersInDeleted heading (ofKind .pageBreak) (ofKind .pageBreak) :=
        .node _ .pageBreak (by simp [Kind.children]) (by simp [Kind.entries])
      cases kind with
      | sect level anchor title contents model =>
        cases title with
        | none => exact hblank
        | some title =>
          refine .node _ (.sect level anchor (some (title, title)) [] none) (fun pair hpair => ?_)
            (by simp [Kind.entries])
          rw [List.mem_singleton.1 hpair]
          exact (ih title (List.mem_append_left _ List.mem_cons_self)).1
      | _ => exact hblank

/-- A deleted node. -/
def deletedNode (kind : Kind Doc) : Doc :=
  node ⟨[], { Flags.unset with deleted := some true }⟩ kind

/-- A text without styles. -/
def bareText (value : String) : Doc :=
  ofKind (.span [] ⟨some value, none, none, none, none⟩)

/-- A catalog with one entry, in the title of which a node stands before a text. -/
def catalogTitled (first : Doc) : Doc :=
  ofKind (.catalog none
    [ofKind (.sect none none (some (ofKind (.paragraph false [first, bareText "One"]))) [] none)])

theorem events_catalogTitled_eq :
    (catalogTitled (deletedNode .pageBreak)).events =
      (catalogTitled (deletedNode (.image none))).events := by
  have htitle : DiffersInDeleted heading
      (ofKind (.paragraph false [deletedNode .pageBreak, bareText "One"]))
      (ofKind (.paragraph false [deletedNode (.image none), bareText "One"])) := by
    refine .node _ (.paragraph false [(_, _), (_, _)]) (fun pair hpair => ?_)
      (by simp [Kind.entries])
    rcases List.mem_pair.1 hpair with rfl | rfl
    · exact .deleted rfl rfl
    · exact (differsInDeleted_refl _).1
  refine events_eq_of_differsInDeleted (.node _ (.catalog none [(_, _)]) (by simp [Kind.children])
    fun pair hpair => ?_)
  rw [List.mem_singleton.1 hpair]
  refine .node _ (.sect none none (some (_, _)) [] none) (fun pair hpair => ?_)
    (by simp [Kind.entries])
  rw [List.mem_singleton.1 hpair]
  exact htitle

/-- **A deleted entry is drawn.**  Putting another deleted node in its place changes the drawing. -/
theorem deletedEntry_drawn_otherwise :
    ∃ doc doc', DiffersInDeleted id doc doc' ∧ doc.events ≠ doc'.events := by
  refine ⟨ofKind (.catalog none [deletedNode (.sect none none (some (bareText "Gone")) [] none)]),
    ofKind (.catalog none [deletedNode .pageBreak]), ?_, by decide +kernel⟩
  refine .node _ (.catalog none [(_, _)]) (by simp [Kind.children]) fun pair hpair => ?_
  rw [List.mem_singleton.1 hpair]
  exact .deleted rfl rfl

end Doc

end Bindery
