import Bindery.Doc.Edit
import Bindery.Proofs.Doc.PlainLines

/-!
# Paragraphs as lines

Groups, sections, conditional contents and the root of a document hold other nodes and write nothing
of their own.  What is written of paragraphs of text in any such containers are therefore the lines
of the paragraphs alone, and which of them is decided by what is drawn at all: nothing of a deleted
node, and nothing of a section without contents, its title included (`Doc.shown`).

* `Doc.paragraphLines`: the texts of the paragraphs that are shown.
* `Doc.plainText_of_isFlow`: these are the lines of the text.
-/

namespace Bindery

namespace Doc

open PlainText (WritesLines unlines writesNothing)

/-! ## The paragraphs that are shown -/

/-- The texts of the paragraphs that are shown, in document order and without those that have no
text. -/
def paragraphLines (doc : Doc) : List String :=
  ((doc.shown.filter fun met => met.nodeKind == .paragraph).map fullText).filter (· != "")

/-- The lines of a layer: its own, if it is a paragraph, and those of its nodes. -/
theorem paragraphLines_node (head : Head) (kind : Kind Doc) :
    (node head kind).paragraphLines =
      if head.flags.isDeleted || !kind.isShown then []
      else
        (if kind.nodeKind == .paragraph then [(node head kind).fullText].filter (· != "")
          else []) ++ kind.children.flatMap paragraphLines := by
  have hkind : (node head kind).nodeKind = kind.nodeKind := rfl
  have hchildren : kind.children.flatMap paragraphLines =
      (((kind.children.flatMap shown).filter fun met => met.nodeKind == .paragraph).map
        fullText).filter (· != "") := by
    simp only [List.filter_flatMap, List.map_flatMap]
    rfl
  rw [paragraphLines, shown_node]
  split
  · rfl
  · rw [hchildren, List.filter_cons, hkind]
    split
    · rw [List.map_cons, ← List.singleton_append, List.filter_append]
    · rw [List.nil_append]

/-- There are no paragraphs in a text. -/
theorem IsPlain.paragraphLines_eq_nil {doc : Doc} (h : doc.IsPlain) : doc.paragraphLines = [] := by
  have hnone : doc.shown.filter (fun met => met.nodeKind == .paragraph) = [] := by
    refine List.filter_eq_nil_iff.2 fun met hmet hparagraph => ?_
    have hmem := mem_everywhere_of_mem_live (mem_live_of_mem_shown hmet)
    obtain ⟨head, spans, text, rfl, -⟩ := exists_eq_span_of_isPlainSpan (h met hmem)
    exact Bool.noConfusion hparagraph
  rw [paragraphLines, hnone]
  rfl

/-- The lines of a live paragraph of text: the text, if there is one. -/
theorem IsPlainParagraph.paragraphLines_eq {doc : Doc} (h : doc.IsPlainParagraph)
    (hlive : doc.isDeleted = false) : doc.paragraphLines = [doc.fullText].filter (· != "") := by
  obtain ⟨hspans⟩ := h
  rename_i head spans
  have hlive : head.flags.isDeleted = false := hlive
  have hbelow : spans.flatMap paragraphLines = [] :=
    List.flatMap_eq_nil_iff.2 fun span hspan => (hspans span hspan).paragraphLines_eq_nil
  rw [paragraphLines_node, hlive, Kind.children, hbelow, List.append_nil]
  rfl

/-- Whether a layer only holds other nodes: the root of a document, a section, contents that are
shown on a condition, or a group. -/
def Kind.isContainer {α : Type} : Kind α → Bool
  | document .. | sect .. | conditional .. | multiElement .. | multiParagraph .. => true
  | _ => false

/-- A document whose text comes from paragraphs of text, a line each, in containers of any depth. -/
inductive IsFlow : Doc → Prop
  | paragraph {doc : Doc} (htext : doc.IsPlainParagraph) (hbreak : '\n' ∉ doc.fullText.toList) :
    IsFlow doc
  | container {head : Head} {kind : Kind Doc} (hkind : kind.isContainer = true)
    (hchildren : ∀ child ∈ kind.children, IsFlow child) : IsFlow (node head kind)

section Container

variable {docs : List Doc} {doc? : Option Doc}

theorem writesLines_all (h : ∀ doc ∈ docs, WritesLines doc.events doc.paragraphLines) :
    WritesLines (Drawing.all ((docs.map withDrawing).map Prod.snd))
      (docs.flatMap paragraphLines) := by
  rw [all_withDrawing]
  exact WritesLines.flatMap h

theorem writesLines_optional (h : ∀ doc ∈ doc?.toList, WritesLines doc.events doc.paragraphLines) :
    WritesLines (Drawing.optional ((doc?.map withDrawing).map Prod.snd))
      (doc?.toList.flatMap paragraphLines) := by
  rw [optional_withDrawing]
  exact WritesLines.flatMap h

theorem writesLines_optionalWithin (block : Block) (hblock : writesNothing block = true)
    (h : ∀ doc ∈ doc?.toList, WritesLines doc.events doc.paragraphLines) :
    WritesLines (Drawing.optionalWithin block ((doc?.map withDrawing).map Prod.snd))
      (doc?.toList.flatMap paragraphLines) := by
  cases doc? with
  | none => exact WritesLines.nil
  | some doc =>
    have hlines := (h doc (List.mem_singleton_self doc)).within hblock []
    rwa [Option.toList_some, List.flatMap_singleton]

/-- **A container writes the lines of the nodes in it.** -/
theorem writesLines_container {head : Head} (hlive : head.flags.isDeleted = false)
    {kind : Kind Doc} (hkind : kind.isContainer = true)
    (h : ∀ child ∈ kind.children, WritesLines child.events child.paragraphLines) :
    WritesLines (node head kind).events (node head kind).paragraphLines := by
  rw [events_of_live hlive, paragraphLines_node, hlive, Bool.false_or]
  cases kind with
  | document header contents footer =>
    simp only [Kind.children, List.forall_mem_append] at h
    have hheader := writesLines_optionalWithin .header rfl h.1.1
    have hfooter := writesLines_optionalWithin .footer rfl h.2
    have hlines := (hheader.append (writesLines_all h.1.2)).append hfooter
    rw [← List.flatMap_append, ← List.flatMap_append] at hlines
    exact hlines.within rfl _
  | sect level anchor title contents model =>
    simp only [Kind.children, List.forall_mem_append] at h
    cases contents with
    | nil => exact WritesLines.nil
    | cons child contents =>
      have hlines := (writesLines_optional h.1).append (writesLines_all h.2)
      rw [← List.flatMap_append] at hlines
      exact hlines.within rfl _
  | conditional contents condition => exact (writesLines_all h).within rfl _
  | multiElement elements => exact (writesLines_all h).within rfl _
  | multiParagraph paragraphs => exact (writesLines_all h).within rfl _
  | _ => exact Bool.noConfusion hkind

end Container

/-- A deleted node writes nothing. -/
theorem writesLines_of_isDeleted {doc : Doc} (h : doc.isDeleted = true) :
    WritesLines doc.events doc.paragraphLines := by
  obtain ⟨head, kind⟩ := doc
  have hdeleted : head.flags.isDeleted = true := h
  rw [events, Drawing.whole, events_of_isDeleted h, paragraphLines_node, hdeleted, Bool.true_or,
    if_pos rfl]
  exact WritesLines.nil

/-- **A document of paragraphs writes the paragraphs that are shown.** -/
theorem IsFlow.writesLines {doc : Doc} (h : doc.IsFlow) :
    WritesLines doc.events doc.paragraphLines := by
  induction h with
  | @paragraph doc htext hbreak =>
    cases hlive : doc.isDeleted with
    | true => exact writesLines_of_isDeleted hlive
    | false =>
      obtain ⟨styles, spanEvents, hevents, hwrites⟩ := htext.events_eq hlive
      rw [hevents, htext.paragraphLines_eq hlive]
      intro text hstart
      rw [hwrites.foldl_paragraph hbreak, show text.endLine = text from hstart]
  | @container head kind hkind _ ih =>
    cases hlive : (node head kind).isDeleted with
    | true => exact writesLines_of_isDeleted hlive
    | false => exact writesLines_container hlive hkind ih

/-- **Paragraphs become lines.**  What is written of paragraphs of text, in documents, sections,
groups and conditional contents of any depth, are the texts of the paragraphs that are shown, those
of them that have a text, each with a line break behind it. -/
theorem plainText_of_isFlow {doc : Doc} (h : doc.IsFlow) :
    doc.plainText = unlines doc.paragraphLines :=
  plainText_eq_unlines h.writesLines

/-- A section with a title, a deleted paragraph and a paragraph without text, a section without
contents, and a footer. -/
def report : Doc :=
  ofKind (.document none
    [ofKind (.sect none none (some (paragraphOf "Title"))
      [paragraphOf "One", (paragraphOf "Gone").setDeleted (some true), paragraphOf ""] none),
      ofKind (.sect none none (some (paragraphOf "Unused")) [] none)]
    (some (paragraphOf "Foot")))

/-- Three paragraphs of the document are shown and have a text. -/
theorem report_plainText :
    report.IsFlow ∧ report.paragraphLines = ["Title", "One", "Foot"] ∧
      report.plainText = "Title\nOne\nFoot\n" := by
  have hline (value : String) (hbreak : '\n' ∉ (paragraphOf value).fullText.toList) :
      (paragraphOf value).IsFlow :=
    .paragraph (isPlainParagraph_paragraphOf value) hbreak
  have hgone : ((paragraphOf "Gone").setDeleted (some true)).IsFlow :=
    .paragraph (.intro (List.forall_mem_singleton.2 (isPlain_textOf "Gone"))) (by decide +kernel)
  have hsect : (ofKind (.sect none none (some (paragraphOf "Title"))
      [paragraphOf "One", (paragraphOf "Gone").setDeleted (some true), paragraphOf ""]
      none)).IsFlow :=
    .container rfl (by
      simpa [Kind.children] using ⟨hline "Title" (by decide +kernel),
        hline "One" (by decide +kernel), hgone, hline "" (by decide +kernel)⟩)
  have hunused : (ofKind (.sect none none (some (paragraphOf "Unused")) [] none)).IsFlow :=
    .container rfl (by simpa [Kind.children] using hline "Unused" (by decide +kernel))
  have hflow : report.IsFlow :=
    .container rfl (by
      simpa [Kind.children] using ⟨hsect, hunused, hline "Foot" (by decide +kernel)⟩)
  exact ⟨hflow, by decide +kernel, (plainText_of_isFlow hflow).trans (by decide +kernel)⟩

end Doc

end Bindery
