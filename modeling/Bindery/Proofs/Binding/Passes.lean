import Bindery.Binding.Document
import Bindery.Proofs.Binding.Fresh
import Bindery.Proofs.Doc.Erasure
import Bindery.Proofs.Doc.Links
import Bindery.Proofs.Doc.ReadingOrder
import Bindery.Template.Build

/-!
# Finished documents

A bound document is fresh, so what the passes through it leave there is all there is.  After
numbering it is numbered (`Template.isNumbered_of_bindDocument`), and after catalogs are filled it
is cataloged (`Template.isCataloged_of_bindDocument`).  Numbering comes first, and filling catalogs
does not undo it; the titles in the entries of a catalog are already numbered.

The drawing follows document order, so whoever reads it meets the numbers in their order
(`Template.readingIndices_of_bindDocument`).

The passes leave nothing else.  A finished document and the bound one it comes from are the same
once numbers, anchors and entries are erased, and on deleted nodes nothing has to be erased for that
(`Template.erased_of_bindDocument`).

The entries of catalogs are there to lead to the sections.  In the drawing of a bound document they
do so for the sections that are shown, and for no others
(`Template.entersSection_iff_of_bindDocument`).
-/

namespace Bindery

namespace Template

variable {options : Options} {template : Template} {model : Json} {doc : Doc}

/-- What is finished is a fresh document. -/
theorem exists_of_bindDocument (h : template.bindDocument options model = .ok doc) :
    ∃ bound, template.bindChild model = some bound ∧ bound.IsFresh ∧
      doc = options.finish bound := by
  rw [bindDocument] at h
  split at h
  · next bound hbound =>
    exact ⟨bound, hbound, template.isFresh_bindChild model bound hbound, (Except.ok.inj h).symm⟩
  · exact absurd h (by simp)

/-- **The expressions of a bound document are numbered**, whether or not its catalogs are filled. -/
theorem isNumbered_of_bindDocument (hoptions : options.numberExpressions = true)
    (h : template.bindDocument options model = .ok doc) : doc.IsNumbered := by
  obtain ⟨bound, -, hfresh, rfl⟩ := exists_of_bindDocument h
  have hnumbered : bound.numberExpressions.IsNumbered :=
    Doc.isNumbered_numberExpressions fun node' hnode => (hfresh node' hnode).1
  rw [Options.finish, hoptions, if_pos rfl]
  split
  · exact hnumbered.fillCatalogs
  · exact hnumbered

/-- A span that refers to an expression. -/
def referenceTo (id : String) : Template :=
  ofKind (.span [] { SpanSource.scope with reference := some id })

/-- Two expressions with the same id and one that is deleted, with references before them and
between them. -/
def crossReferences : Template :=
  multi [paragraph [referenceTo "a", referenceTo "b"], ofKind (.expression (some "a") none),
    (multi [ofKind (.expression (some "b") none), referenceTo "a"]).withDeleted true,
    ofKind (.expression (some "a") (some (paragraph [referenceTo "a"])))]

theorem crossReferences_isNumbered :
    ∃ doc, crossReferences.bindDocument .standard .null = .ok doc ∧ doc.IsNumbered ∧
      doc.live.filterMap Doc.expressionIndex? = [1, 2] ∧
      (doc.live.filterMap Doc.spanText?).map Doc.SpanText.referenceIndex = [some 1, none, some 1] :=
  ⟨_, rfl, @isNumbered_of_bindDocument .standard crossReferences .null _ rfl rfl,
    by decide +kernel, by decide +kernel⟩

/-- **The numbers of expressions ascend in reading order.**  Whoever reads a bound document meets
numbers from one on, each larger than the one before, apart from those that a catalog repeats.  They
are stored in 32 bits, and still ascend as stored if there is room for all of them. -/
theorem readingIndices_of_bindDocument (h : template.bindDocument .standard model = .ok doc) :
    ∃ numbers : List Nat, Doc.readingIndices 0 doc.events = numbers.map UInt32.ofNat ∧
      numbers.Pairwise (· < ·) ∧ (∀ number ∈ numbers, 1 ≤ number) ∧
      (doc.live.countP Doc.isExpression < UInt32.size →
        (Doc.readingIndices 0 doc.events).Pairwise (· < ·) ∧
          ∀ index ∈ Doc.readingIndices 0 doc.events, 1 ≤ index) := by
  obtain ⟨numbers, hsublist, hindices⟩ := (isNumbered_of_bindDocument rfl h).readingIndices
  have hascend : numbers.Pairwise (· < ·) := List.Pairwise.sublist hsublist List.pairwise_lt_range'
  have hrange : ∀ number ∈ numbers,
      1 ≤ number ∧ number < 1 + doc.live.countP Doc.isExpression := by
    intro number hnumber
    exact List.mem_range'_1.1 (hsublist.subset hnumber)
  refine ⟨numbers, hindices, hascend, fun number hnumber => (hrange number hnumber).1, ?_⟩
  intro hcount
  have hroom : ∀ number ∈ numbers, number < UInt32.size := by
    intro number hnumber
    have hle := (hrange number hnumber).2
    omega
  rw [hindices]
  refine ⟨Doc.pairwise_ofNat hascend hroom, fun index hindex => ?_⟩
  obtain ⟨number, hnumber, rfl⟩ := List.mem_map.1 hindex
  rw [UInt32.le_iff_toNat_le, UInt32.toNat_ofNat_of_lt' (hroom number hnumber)]
  exact (hrange number hnumber).1

/-- Expressions in titles, of a section that is drawn and of one that is not, in the contents of a
section and inside each other. -/
def scatteredExpressions : Template :=
  multi [ofKind (.catalog none),
    sect (some (ofKind (.expression none none))) [ofKind (.expression none none)],
    sect (some (ofKind (.expression none none))) [],
    ofKind (.expression none (some (ofKind (.expression none none))))]

theorem scatteredExpressions_readingIndices :
    ∃ doc, scatteredExpressions.bindDocument .standard .null = .ok doc ∧
      (Doc.readingIndices 0 doc.events).Pairwise (· < ·) ∧
      (∀ index ∈ Doc.readingIndices 0 doc.events, 1 ≤ index) ∧
      Doc.readingIndices 0 doc.events = [1, 2, 4, 5] := by
  obtain ⟨-, -, -, -, hstored⟩ :=
    @readingIndices_of_bindDocument scatteredExpressions .null _ rfl
  obtain ⟨hascend, hpositive⟩ := hstored (by decide +kernel)
  exact ⟨_, rfl, hascend, hpositive, by decide +kernel⟩

/-- **Finishing leaves numbers, anchors and entries, and nothing else.**  A pass that is switched
off leaves nothing at all, and no pass leaves anything on a deleted node or below one. -/
theorem erased_of_bindDocument (h : template.bindDocument options model = .ok doc) :
    ∃ bound, template.bind (AccessPath.resolve template.binding.access model) = some bound ∧
      doc.erased = bound.erased ∧ doc.erasedLive = bound.erasedLive ∧
      (options.numberExpressions = false →
        ∀ node' ∈ doc.everywhere, node'.kind.IsUnnumbered) ∧
      (options.buildCatalog = false →
        ∀ node' ∈ doc.everywhere, node'.kind.IsUncataloged) := by
  obtain ⟨bound, hbound, hfresh, rfl⟩ := exists_of_bindDocument h
  refine ⟨bound, hbound, Doc.erased_finish options bound, Doc.erasedLive_finish options bound,
    fun hnumbers => ?_, fun hcatalogs => ?_⟩
  · have hunnumbered : ∀ node' ∈ bound.everywhere, node'.kind.IsUnnumbered :=
      fun node' hnode => (hfresh node' hnode).1
    rw [Options.finish, hnumbers, if_neg Bool.false_ne_true]
    split
    · exact Doc.isUnnumbered_fillCatalogs hunnumbered
    · exact hunnumbered
  · have huncataloged : ∀ node' ∈ bound.everywhere, node'.kind.IsUncataloged :=
      fun node' hnode => (hfresh node' hnode).2
    rw [Options.finish, hcatalogs, if_neg Bool.false_ne_true]
    split
    · exact Doc.isUncataloged_numberExpressions huncataloged
    · exact huncataloged

theorem crossReferences_erased :
    ∃ doc bound, crossReferences.bindDocument ⟨true, false⟩ .null = .ok doc ∧
      crossReferences.bind .null = some bound ∧ doc.erased = bound.erased ∧
      doc.erasedLive = bound.erasedLive ∧
      (∀ node' ∈ doc.everywhere, node'.kind.IsUncataloged) ∧
      doc.live.filterMap Doc.expressionIndex? = [1, 2] ∧
      bound.live.filterMap Doc.expressionIndex? = [0, 0] := by
  obtain ⟨bound, hbound, herased, hlive, -, huncataloged⟩ :=
    @erased_of_bindDocument ⟨true, false⟩ crossReferences .null _ rfl
  have hindices : (crossReferences.bind .null).map
      (fun bound => bound.live.filterMap Doc.expressionIndex?) = some [0, 0] := by
    decide +kernel
  rw [show crossReferences.bind .null = some bound from hbound] at hindices
  exact ⟨_, bound, rfl, hbound, herased, hlive, huncataloged rfl, by decide +kernel,
    Option.some.inj hindices⟩

/-- The pass that fills catalogs starts from the document that would be bound without it. -/
theorem exists_before_of_bindDocument (hoptions : options.buildCatalog = true)
    (h : template.bindDocument options model = .ok doc) :
    ∃ before, template.bindDocument { options with buildCatalog := false } model = .ok before ∧
      (∀ node' ∈ before.everywhere, node'.kind.IsUncataloged) ∧ doc = before.fillCatalogs := by
  obtain ⟨bound, hbound, hfresh, rfl⟩ := exists_of_bindDocument h
  have huncataloged : ∀ node' ∈ bound.everywhere, node'.kind.IsUncataloged :=
    fun node' hnode => (hfresh node' hnode).2
  refine ⟨if options.numberExpressions then bound.numberExpressions else bound, ?_, ?_, ?_⟩
  · rw [bindDocument, hbound]
    rfl
  · split
    · exact Doc.isUncataloged_numberExpressions huncataloged
    · exact huncataloged
  · rw [Options.finish, hoptions]
    rfl

/-- **The catalogs of a bound document list its titled sections.**  The entries have the titles of
the document without its catalogs filled. -/
theorem isCataloged_of_bindDocument (hoptions : options.buildCatalog = true)
    (h : template.bindDocument options model = .ok doc) :
    ∃ before, template.bindDocument { options with buildCatalog := false } model = .ok before ∧
      doc.IsCataloged before ∧ (doc.titledSections.map Doc.anchor?).Nodup ∧
      ∀ met ∈ doc.live, met.isCatalog = true →
        met.kind.entries.length = doc.titledSections.length := by
  obtain ⟨before, hbefore, huncataloged, rfl⟩ := exists_before_of_bindDocument hoptions h
  have hcataloged := Doc.isCataloged_fillCatalogs huncataloged
  exact ⟨before, hbefore, hcataloged, hcataloged.nodup_anchors,
    fun met => hcataloged.length_entries⟩

/-- A titled section in the title of another one, one that is deleted, and catalogs before and in
them. -/
def nestedSections : Template :=
  multi [ofKind (.catalog none),
    (multi [sect (some (paragraph [])) [], ofKind (.catalog none)]).withDeleted true,
    sect (some (sect (some (paragraph [])) [])) [ofKind (.catalog none)]]

theorem nestedSections_isCataloged :
    ∃ doc before, nestedSections.bindDocument .standard .null = .ok doc ∧ doc.IsCataloged before ∧
      doc.titledSections.map Doc.anchor? = [some "section-1", some "section-2"] := by
  obtain ⟨before, -, hcataloged, -⟩ :=
    @isCataloged_of_bindDocument .standard nestedSections .null _ rfl rfl
  exact ⟨_, before, rfl, hcataloged, by decide +kernel⟩

/-- **What the entries in the drawing of a bound document point to.**  The anchor of an entry is
that of a titled section of the document, and the drawing enters a section with this anchor if and
only if that section is shown. -/
theorem entersSection_iff_of_bindDocument {anchor : Option String}
    (h : template.bindDocument .standard model = .ok doc)
    (hentry : Doc.EntersEntry anchor doc.events) :
    anchor.isSome = true ∧ ∃ titled ∈ doc.titledSections, titled.anchor? = anchor ∧
      (Doc.EntersSection anchor doc.events ↔ titled ∈ doc.shown) := by
  obtain ⟨before, -, huncataloged, rfl⟩ := exists_before_of_bindDocument rfl h
  have hcataloged := Doc.isCataloged_fillCatalogs huncataloged
  obtain ⟨titled, htitled, rfl⟩ := hcataloged.exists_titled huncataloged hentry
  refine ⟨?_, titled, htitled, rfl, hcataloged.enters_iff_mem_shown huncataloged htitled⟩
  obtain ⟨anchor, hanchor⟩ := hcataloged.anchor?_eq_some htitled
  rw [hanchor]
  rfl

/-- A catalog, a section with contents and one without. -/
def catalogOfTwo : Template :=
  multi [ofKind (.catalog none), sect (some (text "One")) [text "x"], sect (some (text "Two")) []]

theorem catalogOfTwo_points_to_shown :
    ∃ doc, catalogOfTwo.bindDocument .standard .null = .ok doc ∧
      Doc.EntersEntry (some "section-1") doc.events ∧
      ∃ titled ∈ doc.titledSections, titled.anchor? = some "section-1" ∧ titled ∈ doc.shown := by
  refine ⟨_, rfl, ⟨none, [], by decide +kernel⟩, ?_⟩
  obtain ⟨-, titled, htitled, hanchor, hlink⟩ := @entersSection_iff_of_bindDocument
    catalogOfTwo .null _ (some "section-1") rfl ⟨none, [], by decide +kernel⟩
  exact ⟨titled, htitled, hanchor, hlink.1 ⟨none, [], by decide +kernel⟩⟩

/-- **An entry can point to nothing**: the second section is listed, but not drawn. -/
theorem catalogOfTwo_points_to_nothing :
    ∃ doc, catalogOfTwo.bindDocument .standard .null = .ok doc ∧
      Doc.EntersEntry (some "section-2") doc.events ∧
      ¬ Doc.EntersSection (some "section-2") doc.events := by
  exact ⟨_, rfl, ⟨none, [], by decide +kernel⟩, by decide +kernel⟩

end Template

end Bindery
