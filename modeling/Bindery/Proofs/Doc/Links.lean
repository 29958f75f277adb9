import Bindery.Proofs.Doc.Catalog
import Bindery.Proofs.Doc.Drawing

/-!
# What the entries of a catalog point to

In the drawing of a document an entry of a catalog points to the section that is entered with the
same anchor.  A cataloged document has an entry for every live section with a title, and the anchors
tell them apart.  So the anchor of an entry is that of exactly one section of the document
(`IsCataloged.exists_titled`), and that section is entered if and only if it is shown
(`IsCataloged.enters_iff_mem_shown`).

The two can differ.  A section without contents is listed, but not drawn, and the same is true of
whatever else is not shown for lack of contents around it.  An entry for it points to nothing.

The title in an entry is drawn as well, and there may be sections and catalogs in it.  These do not
interfere, because the title is from before the catalogs were filled: its sections have no anchors
and its catalogs no entries.
-/

namespace Bindery

namespace Doc

/-- Whether a drawing enters a section with an anchor. -/
def EntersSection (anchor : Option String) (events : List Event) : Prop :=
  ∃ level styles, .enter (.sect level anchor) styles ∈ events

/-- Whether a drawing enters an entry of a catalog with an anchor. -/
def EntersEntry (anchor : Option String) (events : List Event) : Prop :=
  ∃ level styles, .enter (.catalogEntry level anchor) styles ∈ events

/-- The anchor of a section that is entered. -/
def Event.sectionAnchor? : Event → Option (Option String)
  | enter (.sect _ anchor) _ => some anchor
  | _ => none

theorem Event.sectionAnchor?_eq_some {event : Event} {anchor : Option String} :
    event.sectionAnchor? = some anchor ↔
      ∃ level styles, event = .enter (.sect level anchor) styles := by
  constructor
  · intro h
    cases event with
    | enter block styles =>
      cases block with
      | sect level anchor' => exact ⟨level, styles, by rw [← Option.some.inj h]⟩
      | _ => exact absurd h (Option.some_ne_none _).symm
    | _ => exact absurd h (Option.some_ne_none _).symm
  · rintro ⟨level, styles, rfl⟩
    rfl

theorem entersSection_iff_exists_sectionAnchor? {anchor : Option String} {events : List Event} :
    EntersSection anchor events ↔ ∃ event ∈ events, event.sectionAnchor? = some anchor := by
  constructor
  · rintro ⟨level, styles, hmem⟩
    exact ⟨_, hmem, rfl⟩
  · rintro ⟨event, hmem, hanchor⟩
    obtain ⟨level, styles, rfl⟩ := Event.sectionAnchor?_eq_some.1 hanchor
    exact ⟨level, styles, hmem⟩

instance (anchor : Option String) (events : List Event) :
    Decidable (EntersSection anchor events) :=
  decidable_of_iff _ entersSection_iff_exists_sectionAnchor?.symm

section Links

variable {doc before : Doc} {block : Block} {styles : List Style}

theorem section?_eq_some {kind : Kind Doc} (h : kind.section? = some block) :
    ∃ level, block = .sect level kind.anchor? := by
  cases kind with
  | sect level anchor title contents model => exact ⟨level, (Option.some.inj h).symm⟩
  | _ => exact absurd h (by simp [Kind.section?])

theorem section?_of_isTitled (h : doc.isTitled = true) :
    ∃ level, doc.kind.section? = some (.sect level doc.anchor?) := by
  obtain ⟨head, kind⟩ := doc
  cases kind with
  | sect level anchor title contents model => exact ⟨level, rfl⟩
  | _ => exact absurd h (by simp [isTitled, Doc.kind])

/-- Where nothing is cataloged, sections without anchors are entered and no entries. -/
theorem sect_of_isUncataloged (h : ∀ node' ∈ doc.everywhere, node'.kind.IsUncataloged)
    (hblock : block.isLink = true) {inherited : Option Inherited}
    (hevent : .enter block styles ∈ doc.drawing.events inherited) :
    ∃ level, block = .sect level none := by
  have hshown (met : Doc) (hmet : met ∈ doc.shown) : met.kind.IsUncataloged :=
    h met (mem_everywhere_of_mem_live (mem_live_of_mem_shown hmet))
  obtain ⟨met, hmet, hown | ⟨entry, hentry, -⟩⟩ := (enter_mem_events_iff hblock doc _).1 hevent
  · obtain ⟨level, hlevel⟩ := section?_eq_some hown.1
    exact ⟨level, (hshown met hmet).anchor ▸ hlevel⟩
  · rw [(hshown met hmet).entries] at hentry
    exact absurd hentry List.not_mem_nil

end Links

namespace IsCataloged

variable {doc before : Doc} (h : doc.IsCataloged before)
  (hbefore : ∀ node' ∈ before.everywhere, node'.kind.IsUncataloged)

include h hbefore

/-- **What an entry of a catalog enters**: an entry with the anchor of a titled section, and
sections without anchors in the title. -/
theorem enter_of_mem_entries {block : Block} {styles : List Style} (hblock : block.isLink = true)
    {met entry : Doc} (hmet : met ∈ doc.live) (hentry : entry ∈ met.kind.entries)
    (hevent : .enter block styles ∈ entry.drawing.entry) :
    (∃ titled ∈ doc.titledSections, ∃ level, block = .catalogEntry level titled.anchor?) ∨
      ∃ level, block = .sect level none := by
  rw [h.entries met hmet (isCatalog_of_mem_entries hentry), ← List.map_uncurry_zip_eq_zipWith]
    at hentry
  obtain ⟨⟨titled, title?⟩, hpair, rfl⟩ := List.mem_map.1 hentry
  obtain ⟨htitled, htitle⟩ := List.of_mem_zip hpair
  obtain ⟨source, hsource, rfl⟩ := List.mem_map.1 htitle
  have hkind := (List.mem_filter.1 htitled).2
  obtain ⟨head, kind⟩ := titled
  cases kind with
  | sect level anchor title contents model =>
    rcases enter_mem_entry_sect hevent with hown | ⟨title, htitle, hevent⟩
    · exact Or.inl ⟨_, htitled, level, hown⟩
    · refine Or.inr (sect_of_isUncataloged (fun node' hnode => hbefore node' ?_) hblock hevent)
      exact (of_mem_live (List.mem_filter.1 hsource).1).2 node'
        (mem_everywhere_of_mem_title? htitle hnode)
  | _ => exact absurd hkind (by simp [isTitled, Doc.kind])

/-- **An entry of a catalog has the anchor of a titled section.** -/
theorem exists_titled {anchor : Option String} (hentry : EntersEntry anchor doc.events) :
    ∃ titled ∈ doc.titledSections, titled.anchor? = anchor := by
  obtain ⟨level, styles, hevent⟩ := hentry
  obtain ⟨met, hmet, hown | ⟨entry, hentry, hevent⟩⟩ := (enter_mem_events_iff rfl doc none).1 hevent
  · obtain ⟨level, hlevel⟩ := section?_eq_some hown.1
    exact Block.noConfusion hlevel
  · rcases h.enter_of_mem_entries hbefore rfl (mem_live_of_mem_shown hmet) hentry hevent with
      ⟨titled, htitled, level', hblock⟩ | ⟨level', hblock⟩
    · exact ⟨titled, htitled, (Block.catalogEntry.inj hblock).2.symm⟩
    · exact Block.noConfusion hblock

/-- **A titled section is entered if and only if it is shown.** -/
theorem enters_iff_mem_shown {titled : Doc} (htitled : titled ∈ doc.titledSections) :
    EntersSection titled.anchor? doc.events ↔ titled ∈ doc.shown := by
  obtain ⟨anchor, hanchor⟩ := h.anchor?_eq_some htitled
  constructor
  · rintro ⟨level, styles, hevent⟩
    obtain ⟨met, hmet, hown | ⟨entry, hentry, hevent⟩⟩ :=
      (enter_mem_events_iff rfl doc none).1 hevent
    · -- the section that is entered has the anchor, so it is this one
      obtain ⟨level', hblock⟩ := section?_eq_some hown.1
      have hsame : titled.anchor? = met.anchor? := (Block.sect.inj hblock).2
      rwa [h.eq_of_anchor?_eq htitled (mem_live_of_mem_shown hmet) hsame]
    · rcases h.enter_of_mem_entries hbefore rfl (mem_live_of_mem_shown hmet) hentry hevent with
        ⟨titled', -, level', hblock⟩ | ⟨level', hblock⟩
      · exact Block.noConfusion hblock
      · rw [(Block.sect.inj hblock).2] at hanchor
        exact absurd hanchor (by simp)
  · intro hshown
    obtain ⟨level, hsection⟩ := section?_of_isTitled (List.mem_filter.1 htitled).2
    exact ⟨level, titled.styles, (enter_mem_events_iff rfl doc none).2
      ⟨titled, hshown, Or.inl ⟨hsection, rfl⟩⟩⟩

end IsCataloged

end Doc

end Bindery
