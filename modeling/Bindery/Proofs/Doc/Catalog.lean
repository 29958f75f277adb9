import Bindery.Doc.Catalog
import Bindery.Proofs.Doc.Numbering
import Mathlib.Data.List.Nodup

/-!
# Catalogs list the titled sections

After catalogs are filled, the titled sections of a document have the anchors `section-1`,
`section-2` and so on in document order, and every live catalog has an entry for each of them
(`IsCataloged`).  Nothing else has an anchor or entries.

An entry is made from the section as it is before the pass, while its anchor is the one that the
section has afterwards.  This makes no difference for the styles, the level and the list model of
the section, which no pass changes, but it does for the title: there may be sections and catalogs in
it, and these are still without anchors and entries in the entry.  So `IsCataloged` speaks of two
documents, and takes the titles from the one before.

What is hidden in an entry is hidden in the title of the section that it is made from, so filling
catalogs hides nothing new (`mem_hidden_fillCatalogs`).  As it gives no numbers either, a numbered
document stays numbered (`IsNumbered.fillCatalogs`).
-/

namespace Bindery

namespace Doc

namespace Kind

variable {α : Type}

/-- The anchor of a section. -/
def anchor? : Kind α → Option String
  | sect _ anchor _ _ _ => anchor
  | _ => none

/-- The title of a section. -/
def title? : Kind α → Option α
  | sect _ _ title _ _ => title
  | _ => none

/-- No catalog has been filled: a section has no anchor and a catalog no entries. -/
structure IsUncataloged (kind : Kind α) : Prop where
  anchor : kind.anchor? = none
  entries : kind.entries = []

@[simp] theorem anchor?_shape (kind : Kind α) : kind.shape.anchor? = kind.anchor? := by
  cases kind <;> rfl

theorem isSome_title?_shape (kind : Kind α) : kind.shape.title?.isSome = kind.title?.isSome := by
  cases kind <;> first | exact Option.isSome_map | rfl

theorem title?_annotate (note : Note) (kind : Kind Doc) :
    (kind.annotate note).title? = kind.title? := by
  cases note <;> cases kind <;> rfl

@[simp] theorem isUncataloged_shape (kind : Kind α) :
    kind.shape.IsUncataloged ↔ kind.IsUncataloged := by
  have hentries : kind.shape.entries = [] ↔ kind.entries = [] := by
    rw [shape, entries_map, List.map_eq_nil_iff]
  exact ⟨fun h => ⟨by rw [← anchor?_shape, h.anchor], hentries.1 h.entries⟩,
    fun h => ⟨by rw [anchor?_shape, h.anchor], hentries.2 h.entries⟩⟩

end Kind

/-- The anchor of a section. -/
def anchor? (doc : Doc) : Option String :=
  doc.kind.anchor?

/-- The title of a section. -/
def title? (doc : Doc) : Option Doc :=
  doc.kind.title?

/-- Whether the node is a catalog. -/
def isCatalog (doc : Doc) : Bool :=
  doc.nodeKind == .catalog

/-- A section of which nothing is kept but what an entry shows, with the given title. -/
def entryOf (titled : Doc) (title : Option Doc) : Doc :=
  match titled with
  | .node head (.sect level anchor _ _ model) =>
    .node ⟨head.styles, .unset⟩ (.sect level anchor title [] model)
  | doc => doc

/-- **Cataloged documents**, after catalogs were filled in a document as it was before. -/
structure IsCataloged (doc before : Doc) : Prop where
  /-- The titled sections stand where they stood. -/
  titled : doc.live.map isTitled = before.live.map isTitled
  /-- The titled sections have anchors with numbers, in document order. -/
  anchors : doc.titledSections.map anchor? =
    (List.range doc.titledSections.length).map fun i => some (anchorAfter i)
  /-- No other live node has an anchor. -/
  untitled : ∀ met ∈ doc.live, met.isTitled = false → met.anchor? = none
  /-- A live catalog has an entry for each titled section, with the title that it had before. -/
  entries : ∀ met ∈ doc.live, met.isCatalog = true →
    met.kind.entries =
      List.zipWith entryOf doc.titledSections (before.titledSections.map title?)
  /-- What is deleted or stands below a deleted node has no anchor and no entries. -/
  hidden : ∀ node' ∈ doc.hidden, node'.kind.IsUncataloged

/-! ## What filling catalogs does to a node -/

/-- Only catalogs have entries. -/
theorem isCatalog_of_mem_entries {doc entry : Doc} (h : entry ∈ doc.kind.entries) :
    doc.isCatalog = true := by
  obtain ⟨head, kind⟩ := doc
  cases kind with
  | catalog => rfl
  | _ => exact absurd h List.not_mem_nil

/-- What is in the title of a section is in the section. -/
theorem mem_everywhere_of_mem_title? {doc title node' : Doc} (htitle : title ∈ doc.title?)
    (h : node' ∈ title.everywhere) : node' ∈ doc.everywhere := by
  obtain ⟨head, kind⟩ := doc
  cases kind with
  | sect level anchor own contents model =>
    exact mem_everywhere_of_mem_nodes (List.mem_append_left _ (Option.mem_toList.2 htitle)) h
  | _ => exact absurd htitle (by simp [title?, Kind.title?, Doc.kind])

theorem isTitled_eq_isSome (doc : Doc) : doc.isTitled = doc.title?.isSome := by
  obtain ⟨head, kind⟩ := doc
  cases kind <;> rfl

section Note

variable (entries : List Doc) (met : Doc) {kind' : Kind Doc} (n : Nat)

/-- The pass gives anchors to titled sections and entries to catalogs. -/
theorem catalogNote_cases :
    (met.isTitled = true ∧ catalogNote entries n met = .anchor (met.anchor?.getD (anchorAfter n))) ∨
      (met.isCatalog = true ∧ catalogNote entries n met = .sections entries) ∨
      (met.isTitled = false ∧ met.isCatalog = false ∧ catalogNote entries n met = .nothing) := by
  obtain ⟨head, kind⟩ := met
  cases kind with
  | sect level anchor title contents model =>
    cases title with
    | none => exact Or.inr (Or.inr ⟨rfl, rfl, rfl⟩)
    | some title => exact Or.inl ⟨rfl, rfl⟩
  | catalog title sections => exact Or.inr (Or.inl ⟨rfl, rfl⟩)
  | _ => exact Or.inr (Or.inr ⟨rfl, rfl, rfl⟩)

/-- The only entries that the pass brings are those that it was given. -/
theorem eq_of_catalogNote_eq_sections {entries sections : List Doc} {met : Doc} {n : Nat}
    (h : catalogNote entries n met = .sections sections) : sections = entries := by
  rcases catalogNote_cases entries met n with ⟨-, hcase⟩ | ⟨-, hcase⟩ | ⟨-, -, hcase⟩ <;>
    rw [hcase] at h
  · exact Note.noConfusion h
  · exact (Note.sections.inj h).symm
  · exact Note.noConfusion h

theorem isTitled_annotate (note : Note) (h : kind'.shape = met.kind.shape) :
    isTitled (node met.head (kind'.annotate note)) = met.isTitled := by
  rw [isTitled_eq_isSome, isTitled_eq_isSome, title?, Doc.kind, Kind.title?_annotate,
    ← Kind.isSome_title?_shape, h, Kind.isSome_title?_shape]
  rfl

theorem isCatalog_annotate (note : Note) (h : kind'.shape = met.kind.shape) :
    isCatalog (node met.head (kind'.annotate note)) = met.isCatalog := by
  have hkind : kind'.nodeKind = met.kind.nodeKind := by
    rw [← Kind.nodeKind_map (fun _ => ()) kind', ← Kind.nodeKind_map (fun _ => ()) met.kind]
    exact congrArg Kind.nodeKind h
  rw [isCatalog, isCatalog, nodeKind, nodeKind, ← hkind]
  cases note <;> cases kind' <;> rfl

theorem expression?_annotate_catalogNote (h : kind'.shape = met.kind.shape) :
    expression? (node met.head (kind'.annotate (catalogNote entries n met))) = met.expression? := by
  rw [expression?, Doc.kind, Kind.expression?_annotate, Kind.expression?_congr h]
  rcases catalogNote_cases entries met n with ⟨-, hnote⟩ | ⟨-, hnote⟩ | ⟨-, -, hnote⟩ <;>
    rw [hnote] <;> rfl

theorem spanText?_annotate_catalogNote (h : kind'.shape = met.kind.shape) :
    spanText? (node met.head (kind'.annotate (catalogNote entries n met))) = met.spanText? := by
  rw [spanText?, Doc.kind, Kind.spanText?_annotate, Kind.spanText?_congr h]
  rcases catalogNote_cases entries met n with ⟨-, hnote⟩ | ⟨-, hnote⟩ | ⟨-, -, hnote⟩ <;>
    rw [hnote] <;> rfl

variable {met}

/-- A titled section gets an anchor, and its entry is made from what becomes of it. -/
theorem annotate_of_isTitled (htitled : met.isTitled = true) (h : kind'.shape = met.kind.shape) :
    anchor? (node met.head (kind'.annotate (catalogNote entries n met))) =
        some (met.anchor?.getD (anchorAfter n)) ∧
      entryOf (node met.head (kind'.annotate (catalogNote entries n met))) met.title? =
        catalogEntry n met := by
  obtain ⟨head, kind⟩ := met
  cases kind with
  | sect level anchor title contents model =>
    cases kind' with
    | sect level' anchor' title' contents' model' =>
      obtain ⟨title, rfl⟩ := Option.isSome_iff_exists.1 htitled
      simp only [Kind.shape, Kind.map, Doc.kind, Kind.sect.injEq] at h
      obtain ⟨rfl, rfl, -, -, rfl⟩ := h
      exact ⟨rfl, rfl⟩
    | _ => exact absurd h (by simp [Kind.shape, Kind.map, Doc.kind])
  | _ => exact absurd htitled (by simp [isTitled, Doc.kind])

/-- A catalog gets the entries, and no anchor. -/
theorem annotate_of_isCatalog (hcatalog : met.isCatalog = true) (h : kind'.shape = met.kind.shape) :
    (kind'.annotate (catalogNote entries n met)).entries = entries := by
  obtain ⟨head, kind⟩ := met
  cases kind with
  | catalog title sections =>
    cases kind' with
    | catalog title' sections' => rfl
    | _ => exact absurd h (by simp [Kind.shape, Kind.map, Doc.kind])
  | _ => exact absurd hcatalog (by simp [isCatalog, nodeKind, Kind.nodeKind, Doc.kind])

/-- What is no titled section keeps its anchor. -/
theorem anchor?_annotate_of_isTitled_eq_false (htitled : met.isTitled = false)
    (h : kind'.shape = met.kind.shape) :
    anchor? (node met.head (kind'.annotate (catalogNote entries n met))) = met.anchor? := by
  have hkind : kind'.anchor? = met.kind.anchor? := by
    rw [← Kind.anchor?_shape, h, Kind.anchor?_shape]
  have hkeeps (note : Note) (hnote : ∀ anchor, note ≠ .anchor anchor) :
      (kind'.annotate note).anchor? = kind'.anchor? := by
    cases note with
    | anchor anchor => exact absurd rfl (hnote anchor)
    | _ => cases kind' <;> rfl
  refine (hkeeps _ fun anchor hnote => ?_).trans hkind
  rcases catalogNote_cases entries met n with ⟨hcase, -⟩ | ⟨-, hcase⟩ | ⟨-, -, hcase⟩
  · rw [htitled] at hcase
    exact Bool.noConfusion hcase
  · rw [hcase] at hnote
    exact Note.noConfusion hnote
  · rw [hcase] at hnote
    exact Note.noConfusion hnote

end Note

/-! ## What filling catalogs does to a document -/

variable {doc : Doc}

/-- What is hidden in an entry is hidden in the section that it is made from. -/
theorem mem_hidden_catalogEntry {titled node' : Doc} {n : Nat} (hlive : titled.isDeleted = false)
    (htitled : titled.isTitled = true) (h : node' ∈ (catalogEntry n titled).hidden) :
    node' ∈ titled.hidden := by
  obtain ⟨head, kind⟩ := titled
  cases kind with
  | sect level anchor title contents model =>
    obtain ⟨child, hchild, h⟩ := (mem_hidden_node rfl).1 h
    refine (mem_hidden_node hlive).2 ⟨child, ?_, h⟩
    rw [Kind.nodes, List.append_nil] at hchild
    exact List.mem_append_left _ hchild
  | _ => exact absurd htitled (by simp [isTitled, Doc.kind])

/-- **Filling catalogs hides nothing new.** -/
theorem mem_hidden_fillCatalogs {node' : Doc} (h : node' ∈ doc.fillCatalogs.hidden) :
    node' ∈ doc.hidden := by
  rcases mem_hidden_walk h with h | ⟨before, met, sections, hnote, entry, hentry, h⟩
  · exact h
  · rw [eq_of_catalogNote_eq_sections hnote, catalogEntries] at hentry
    obtain ⟨⟨titled, n⟩, hmem, rfl⟩ := List.mem_map.1 hentry
    obtain ⟨hlive, htitled⟩ := List.mem_filter.1 (List.fst_mem_of_mem_zipIdx hmem)
    exact mem_hidden_of_mem_live hlive (mem_hidden_catalogEntry (of_mem_live hlive).1 htitled h)

/-- **A numbered document stays numbered** when its catalogs are filled. -/
theorem IsNumbered.fillCatalogs (h : doc.IsNumbered) : doc.fillCatalogs.IsNumbered := by
  refine h.congr ?_ ?_ fun node' hnode => h.hidden node' (mem_hidden_fillCatalogs hnode)
  · exact filterMap_live_annotate (fun met kind' n hshape =>
      expression?_annotate_catalogNote doc.catalogEntries met n hshape) doc
  · exact filterMap_live_annotate (fun met kind' n hshape =>
      spanText?_annotate_catalogNote doc.catalogEntries met n hshape) doc

/-- Numbering gives no anchors and no entries. -/
theorem isUncataloged_numberExpressions (h : ∀ node' ∈ doc.everywhere, node'.kind.IsUncataloged) :
    ∀ node' ∈ doc.numberExpressions.everywhere, node'.kind.IsUncataloged := by
  have hnote (met : Doc) (kind' : Kind Doc) (n : Nat) (hshape : kind'.shape = met.kind.shape)
      (hmet : met.kind.shape.IsUncataloged) :
      (kind'.annotate (numberNote doc.expressionIds n met)).shape.IsUncataloged := by
    rw [← hshape, Kind.isUncataloged_shape] at hmet
    rw [Kind.isUncataloged_shape]
    rcases numberNote_cases doc.expressionIds met n with ⟨index, hcase⟩ | ⟨index, hcase⟩ | hcase <;>
      rw [hcase] <;> cases kind' <;> exact ⟨hmet.anchor, hmet.entries⟩
  have hshapes : ∀ node' ∈ (walk isExpression (numberNote doc.expressionIds) doc 0).1.everywhere,
      node'.kind.shape.IsUncataloged :=
    shape_everywhere_walk hnote
      (fun n met sections h => absurd h (numberNote_ne_sections _ met n sections))
      fun node' hnode => (Kind.isUncataloged_shape _).2 (h node' hnode)
  exact fun node' hnode => (Kind.isUncataloged_shape _).1 (hshapes node' hnode)

/-- What is in an entry is the entry itself or in the section that it is made from. -/
theorem mem_everywhere_catalogEntry {titled node' : Doc} {n : Nat}
    (htitled : titled.isTitled = true) (h : node' ∈ (catalogEntry n titled).everywhere) :
    node' = catalogEntry n titled ∨ node' ∈ titled.everywhere := by
  obtain ⟨head, kind⟩ := titled
  cases kind with
  | sect level anchor title contents model =>
    rw [catalogEntry, everywhere_node, List.mem_cons] at h
    refine h.imp_right fun h => ?_
    obtain ⟨child, hchild, h⟩ := List.mem_flatMap.1 h
    rw [Kind.nodes, List.append_nil] at hchild
    exact mem_everywhere_of_mem_nodes (List.mem_append_left _ hchild) h
  | _ => exact absurd htitled (by simp [isTitled, Doc.kind])

/-- What the pass brings with an entry is a section, or it was in the document already. -/
theorem of_catalogNote_eq_sections {met entry node' : Doc} {n : Nat} {sections : List Doc}
    (hnote : catalogNote doc.catalogEntries n met = .sections sections) (hentry : entry ∈ sections)
    (h : node' ∈ entry.everywhere) : node'.nodeKind = .sect ∨ node' ∈ doc.everywhere := by
  rw [eq_of_catalogNote_eq_sections hnote, catalogEntries] at hentry
  obtain ⟨⟨titled, before⟩, hmem, rfl⟩ := List.mem_map.1 hentry
  obtain ⟨hlive, htitled⟩ := List.mem_filter.1 (List.fst_mem_of_mem_zipIdx hmem)
  rcases mem_everywhere_catalogEntry htitled h with rfl | h
  · left
    obtain ⟨head, kind⟩ := titled
    cases kind with
    | sect => rfl
    | _ => exact absurd htitled (by simp [isTitled, Doc.kind])
  · exact Or.inr ((of_mem_live hlive).2 node' h)

/-- Filling catalogs gives no numbers, not even in the entries. -/
theorem isUnnumbered_fillCatalogs (h : ∀ node' ∈ doc.everywhere, node'.kind.IsUnnumbered) :
    ∀ node' ∈ doc.fillCatalogs.everywhere, node'.kind.IsUnnumbered := by
  have hnote (met : Doc) (kind' : Kind Doc) (n : Nat) (hshape : kind'.shape = met.kind.shape)
      (hmet : met.kind.shape.IsUnnumbered) :
      (kind'.annotate (catalogNote doc.catalogEntries n met)).shape.IsUnnumbered := by
    rw [← hshape, Kind.isUnnumbered_shape] at hmet
    rw [Kind.isUnnumbered_shape]
    rcases catalogNote_cases doc.catalogEntries met n with
      ⟨-, hcase⟩ | ⟨-, hcase⟩ | ⟨-, -, hcase⟩ <;> rw [hcase] <;> cases kind' <;> exact hmet
  have hsections (n : Nat) (met : Doc) (sections : List Doc)
      (hbrought : catalogNote doc.catalogEntries n met = .sections sections) :
      ∀ entry ∈ sections, ∀ node' ∈ entry.everywhere, node'.kind.shape.IsUnnumbered := by
    intro entry hentry node' hnode
    rw [Kind.isUnnumbered_shape]
    rcases of_catalogNote_eq_sections hbrought hentry hnode with hsect | hnode
    · -- only expressions and spans have numbers
      obtain ⟨head, kind⟩ := node'
      cases kind with
      | sect => trivial
      | _ => exact NodeKind.noConfusion hsect
    · exact h node' hnode
  have hshapes : ∀ node' ∈ (walk isTitled (catalogNote doc.catalogEntries) doc 0).1.everywhere,
      node'.kind.shape.IsUnnumbered :=
    shape_everywhere_walk hnote hsections
      fun node' hnode => (Kind.isUnnumbered_shape _).2 (h node' hnode)
  exact fun node' hnode => (Kind.isUnnumbered_shape _).1 (hshapes node' hnode)

/-- The titled sections after the pass, each after a walk of its own. -/
theorem titledSections_fillCatalogs (doc : Doc) :
    doc.fillCatalogs.titledSections = doc.titledSections.zipIdx.map fun item =>
      (walk isTitled (catalogNote doc.catalogEntries) item.1 item.2).1 :=
  filter_live_annotate (fun met _ _ h => isTitled_annotate met _ h) doc

/-- What becomes of a titled section. -/
theorem walk_of_mem_titledSections {titled : Doc} (entries : List Doc) (n : Nat)
    (h : titled ∈ doc.titledSections) :
    (walk isTitled (catalogNote entries) titled n).1.anchor? =
        some (titled.anchor?.getD (anchorAfter n)) ∧
      entryOf (walk isTitled (catalogNote entries) titled n).1 titled.title? =
        catalogEntry n titled := by
  obtain ⟨hlive, htitled⟩ := List.mem_filter.1 h
  obtain ⟨kind', hshape, hwalk⟩ := exists_walk_of_mem_live hlive n
  rw [hwalk]
  exact annotate_of_isTitled entries n htitled hshape

/-- **Filling catalogs makes a cataloged document** of one in which nothing had an anchor or entries
before. -/
theorem isCataloged_fillCatalogs (h : ∀ node' ∈ doc.everywhere, node'.kind.IsUncataloged) :
    doc.fillCatalogs.IsCataloged doc := by
  have hlive (met : Doc) (hmet : met ∈ doc.live) : met.anchor? = none :=
    (h met (mem_everywhere_of_mem_live hmet)).anchor
  constructor
  case titled =>
    have hread (met : Doc) (kind' : Kind Doc) (n : Nat) (hshape : kind'.shape = met.kind.shape) :
        some (isTitled (node met.head (kind'.annotate (catalogNote doc.catalogEntries n met)))) =
          some met.isTitled :=
      congrArg some (isTitled_annotate met _ hshape)
    rw [← List.filterMap_eq_map]
    exact filterMap_live_annotate hread doc
  case anchors =>
    rw [titledSections_fillCatalogs, List.map_map, List.length_map, List.length_zipIdx,
      List.range_eq_range', ← List.zipIdx_map_snd, List.map_map]
    refine List.map_congr_left fun item hitem => ?_
    have hmem := List.fst_mem_of_mem_zipIdx hitem
    rw [Function.comp_apply, (walk_of_mem_titledSections _ item.2 hmem).1,
      hlive item.1 (List.mem_filter.1 hmem).1]
    rfl
  case untitled =>
    intro met' hmet' htitled
    obtain ⟨met, hmet, kind', n, hshape, rfl⟩ := exists_of_mem_live_annotate hmet'
    rw [isTitled_annotate met _ hshape] at htitled
    rw [anchor?_annotate_of_isTitled_eq_false _ n htitled hshape, hlive met hmet]
  case entries =>
    intro met' hmet' hcatalog
    obtain ⟨met, hmet, kind', n, hshape, rfl⟩ := exists_of_mem_live_annotate hmet'
    rw [isCatalog_annotate met _ hshape] at hcatalog
    have htitles : doc.titledSections.map title? =
        doc.titledSections.zipIdx.map fun item => item.1.title? := by
      conv_lhs => rw [← List.zipIdx_map_fst 0 doc.titledSections, List.map_map]
      rfl
    rw [Doc.kind, annotate_of_isCatalog _ n hcatalog hshape, titledSections_fillCatalogs, htitles,
      List.zipWith_map, List.zipWith_self, catalogEntries]
    refine List.map_congr_left fun item hitem => ?_
    exact ((walk_of_mem_titledSections _ item.2 (List.fst_mem_of_mem_zipIdx hitem)).2).symm
  case hidden =>
    exact fun node' hnode => h node' (mem_everywhere_of_mem_hidden (mem_hidden_fillCatalogs hnode))

/-! ## Catalogs and anchors of a cataloged document -/

theorem anchorAfter_injective : Function.Injective anchorAfter := by
  intro before before' h
  have hrepr : Nat.repr (before + 1) = Nat.repr (before' + 1) := (String.append_right_inj _).1 h
  rw [Nat.repr_eq_ofList_toDigits, Nat.repr_eq_ofList_toDigits, String.ofList_inj] at hrepr
  have hsucc : before + 1 = before' + 1 := by
    rw [← @Nat.ofDigitChars_ten_toDigits (before + 1), hrepr, Nat.ofDigitChars_ten_toDigits]
  exact Nat.succ.inj hsucc

namespace IsCataloged

variable {before : Doc} (h : doc.IsCataloged before)

include h

/-- There are as many titled sections as before. -/
theorem length_titledSections : doc.titledSections.length = before.titledSections.length := by
  have hcount (met : Doc) : met.titledSections.length = (met.live.map isTitled).countP id := by
    rw [List.countP_map, titledSections, ← List.countP_eq_length_filter]
    rfl
  rw [hcount, hcount, h.titled]

/-- A catalog has an entry for each titled section and no others. -/
theorem length_entries {met : Doc} (hmet : met ∈ doc.live) (hcatalog : met.isCatalog = true) :
    met.kind.entries.length = doc.titledSections.length := by
  rw [h.entries met hmet hcatalog, List.length_zipWith, List.length_map, h.length_titledSections,
    Nat.min_self]

/-- **The anchors of the titled sections are pairwise distinct.** -/
theorem nodup_anchors : (doc.titledSections.map anchor?).Nodup := by
  rw [h.anchors]
  exact List.nodup_range.map fun _ _ h => anchorAfter_injective (Option.some.inj h)

/-- A titled section has an anchor. -/
theorem anchor?_eq_some {titled : Doc} (htitled : titled ∈ doc.titledSections) :
    ∃ anchor, titled.anchor? = some anchor := by
  have hanchor := List.mem_map_of_mem (f := anchor?) htitled
  rw [h.anchors] at hanchor
  obtain ⟨i, -, hi⟩ := List.mem_map.1 hanchor
  exact ⟨anchorAfter i, hi.symm⟩

/-- Only the titled section itself has its anchor. -/
theorem eq_of_anchor?_eq {titled met : Doc} (htitled : titled ∈ doc.titledSections)
    (hmet : met ∈ doc.live) (hsame : titled.anchor? = met.anchor?) : titled = met := by
  have hkind : met.isTitled = true := by
    by_contra hkind
    obtain ⟨anchor, hanchor⟩ := h.anchor?_eq_some htitled
    rw [hsame, h.untitled met hmet (Bool.eq_false_iff.2 hkind)] at hanchor
    exact absurd hanchor (by simp)
  exact List.inj_on_of_nodup_map h.nodup_anchors htitled (List.mem_filter.2 ⟨hmet, hkind⟩) hsame

end IsCataloged

end Doc

end Bindery
