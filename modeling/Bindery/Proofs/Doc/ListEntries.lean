import Bindery.Doc.Edit
import Bindery.Proofs.Doc.PlainLines

/-!
# The lines of a list

An entry of a list begins with its marker, which leaves the text within a line.  A text goes on
there, but a paragraph ends the line first, so that the marker of a paragraph stands on a line of
its own and the paragraph below it.

* `PlainText.entryLines`: the lines of an entry.
* `Doc.plainText_list`: the text of a list, and when each marker stands on the line of its entry.
-/

namespace Bindery

namespace PlainText

open Doc (Event within)

/-! ## An entry -/

/-- The lines of an entry of a list, of which the text is a paragraph or not.  A paragraph begins on
a line of its own. -/
def entryLines (marker text : String) (isParagraph : Bool) : List String :=
  if isParagraph then [marker ++ " "] ++ [text].filter (· != "") else [marker ++ " " ++ text]

/-- A paragraph takes one line break more than the marker and the text on one line. -/
theorem length_unlines_entryLines (marker text : String) (isParagraph : Bool) :
    (unlines (entryLines marker text isParagraph)).toList.length =
      (unlines [marker ++ " " ++ text]).toList.length +
        if isParagraph = true ∧ text ≠ "" then 1 else 0 := by
  cases isParagraph with
  | false => simp [entryLines]
  | true =>
    by_cases htext : text = ""
    · subst htext
      simp [entryLines, unlines]
    · have htwo : entryLines marker text true = [marker ++ " "] ++ [text] := by
        simp [entryLines, htext]
      rw [htwo, if_pos ⟨rfl, htext⟩, toList_unlines_append, toList_unlines_singleton,
        toList_unlines_singleton, toList_unlines_singleton]
      simp +arith

/-- The marker and the text of an entry are on one line unless the text is a paragraph. -/
theorem unlines_entryLines_eq_iff (marker text : String) (isParagraph : Bool) :
    (unlines (entryLines marker text isParagraph)).toList =
        (unlines [marker ++ " " ++ text]).toList ↔
      (isParagraph = true → text = "") := by
  constructor
  · intro heq hparagraph
    have hlength := length_unlines_entryLines marker text isParagraph
    rw [heq] at hlength
    by_contra htext
    rw [if_pos ⟨hparagraph, htext⟩] at hlength
    omega
  · cases isParagraph with
    | false => exact fun _ => rfl
    | true =>
      intro htext
      rw [htext rfl]
      simp [entryLines, unlines]

section Item

variable {events : List Event} {line : String} (h : Writes events line.toList)
  (hbreak : '\n' ∉ line.toList) (model : ListModel) (ordinal : Nat)

include h hbreak

/-- **An entry with a text** is a line of the marker and the text. -/
theorem Writes.item :
    WritesLines (within (.item model ordinal) [] events)
      (entryLines (model.marker ordinal) line false) := by
  intro text hstart
  have hend : text.endLine = text := hstart
  rw [foldl_within, enter, hend, h, append_append, leave,
    endLine_append (by simp) (by simpa using hbreak), append_append, entryLines,
    if_neg Bool.false_ne_true, toList_unlines_singleton, ListModel.marker]
  simp

/-- **An entry with a paragraph** has its marker on one line and its text on the next. -/
theorem Writes.item_paragraph (styles : List Style) :
    WritesLines (within (.item model ordinal) [] (within (.paragraph false) styles events))
      (entryLines (model.marker ordinal) line true) := by
  intro text hstart
  have hend : text.endLine = text := hstart
  have hmarker : (text.enter (.item model ordinal)).endLine =
      text.append (unlines [model.marker ordinal ++ " "]).toList := by
    rw [enter, hend, endLine_append (by simp) (by simp), append_append, toList_unlines_singleton,
      ListModel.marker]
    simp
  rw [foldl_within, h.foldl_paragraph hbreak, hmarker, append_append, ← toList_unlines_append]
  exact hstart.append_unlines _

end Item

end PlainText

namespace Doc

open PlainText (WritesLines entryLines unlines)

/-! ## A list -/

/-- An entry of a list that is a text or a paragraph of text, without a line break in it. -/
structure IsTextEntry (doc : Doc) : Prop where
  text : doc.IsPlain ∨ doc.IsPlainParagraph
  unbroken : '\n' ∉ doc.fullText.toList

/-- The lines of a node that is an entry of a list. -/
def linesAsEntry (model : ListModel) (item : Doc × Nat) : List String :=
  entryLines (model.marker (item.2 + 1)) item.1.fullText (item.1.nodeKind == .paragraph)

/-- An entry with its marker on the same line. -/
def lineAsEntry (model : ListModel) (item : Doc × Nat) : String :=
  model.marker (item.2 + 1) ++ " " ++ item.1.fullText

/-- **An entry writes its lines**, if it is live. -/
theorem IsTextEntry.writesLines {doc : Doc} (h : doc.IsTextEntry) (hlive : doc.isDeleted = false)
    (model : ListModel) (i : Nat) :
    WritesLines (within (.item model (i + 1)) [] doc.drawing.whole)
      (linesAsEntry model (doc, i)) := by
  obtain ⟨htext | htext, hbreak⟩ := h
  · obtain ⟨head, spans, text, rfl, -⟩ := exists_eq_span_of_isPlainSpan
      (htext doc (mem_everywhere_self doc))
    exact (htext.writes none).item hbreak model (i + 1)
  · obtain ⟨styles, spanEvents, hevents, hwrites⟩ := htext.events_eq hlive
    rw [events] at hevents
    rw [hevents]
    obtain ⟨hspans⟩ := htext
    exact hwrites.item_paragraph hbreak model (i + 1) styles

/-- The text of a list of texts and paragraphs. -/
theorem plainText_list_eq {head : Head} (hlive : head.flags.isDeleted = false) (model : ListModel)
    {docs : List Doc} (h : ∀ entry ∈ docs, entry.isDeleted = false → entry.IsTextEntry) :
    (node head (.list docs model)).plainText =
      unlines ((docs.filter fun entry => !entry.isDeleted).zipIdx.flatMap
        (linesAsEntry model)) := by
  apply plainText_eq_unlines
  rw [events_of_live hlive]
  refine WritesLines.within rfl _ ?_
  rw [itemEvents_eq]
  refine WritesLines.flatMap fun item hitem => ?_
  obtain ⟨hmem, hentry⟩ := List.mem_filter.1 (List.fst_mem_of_mem_zipIdx hitem)
  rw [Bool.not_eq_true'] at hentry
  exact (h item.1 hmem hentry).writesLines hentry model item.2

/-- Lists that are strung together, none shorter than its counterpart, are the same as a whole only
if each is the same as its counterpart. -/
theorem flatMap_eq_flatMap_iff {α β : Type} {items : List α} {f g : α → List β}
    (h : ∀ item ∈ items, (g item).length ≤ (f item).length) :
    items.flatMap f = items.flatMap g ↔ ∀ item ∈ items, f item = g item := by
  suffices (items.flatMap g).length ≤ (items.flatMap f).length ∧
      (items.flatMap f = items.flatMap g → ∀ item ∈ items, f item = g item) from
    ⟨this.2, List.flatMap_congr⟩
  induction items with
  | nil => exact ⟨Nat.le_refl _, fun _ _ hitem => absurd hitem List.not_mem_nil⟩
  | cons item items ih =>
    rw [List.forall_mem_cons] at h
    obtain ⟨hshorter, hsame⟩ := ih h.2
    simp only [List.flatMap_cons]
    refine ⟨by simp only [List.length_append]; omega, fun heq => ?_⟩
    have hlength := congrArg List.length heq
    simp only [List.length_append] at hlength
    obtain ⟨hitem, hitems⟩ := List.append_inj heq (by omega)
    exact List.forall_mem_cons.2 ⟨hitem, hsame hitems⟩

/-- **A list of texts and paragraphs** is written as its live entries in order, each with the marker
of its place among them.  A text stands on the line of its marker.  A paragraph begins on the next
line, so that the text of the list has each marker on the line of its entry exactly if no entry is a
paragraph with a text.  A deleted list is not written. -/
theorem plainText_list (head : Head) (model : ListModel) (docs : List Doc)
    (h : ∀ entry ∈ docs, entry.isDeleted = false → entry.IsTextEntry) :
    let entries := docs.filter fun entry => !entry.isDeleted
    let list := node head (.list docs model)
    (list.plainText = if list.isDeleted then ""
      else unlines (entries.zipIdx.flatMap (linesAsEntry model))) ∧
    (list.isDeleted = false →
      (list.plainText = unlines (entries.zipIdx.map (lineAsEntry model)) ↔
        ∀ entry ∈ entries, entry.nodeKind = .paragraph → entry.fullText = "")) := by
  intro entries list
  refine ⟨?_, fun hlive => ?_⟩
  · cases hlive : list.isDeleted with
    | true => rw [plainText, events, Drawing.whole, events_of_isDeleted hlive]; rfl
    | false => exact plainText_list_eq hlive model h
  · have hlines (item : Doc × Nat) :
        (unlines (linesAsEntry model item)).toList = (unlines [lineAsEntry model item]).toList ↔
          (item.1.nodeKind = .paragraph → item.1.fullText = "") := by
      rw [linesAsEntry, lineAsEntry, PlainText.unlines_entryLines_eq_iff, beq_iff_eq]
    have hshorter (item : Doc × Nat) : (unlines [lineAsEntry model item]).toList.length ≤
        (unlines (linesAsEntry model item)).toList.length := by
      rw [linesAsEntry, lineAsEntry, PlainText.length_unlines_entryLines]
      exact Nat.le_add_right _ _
    have hwritten : list.plainText = unlines (entries.zipIdx.flatMap (linesAsEntry model)) :=
      plainText_list_eq hlive model h
    rw [hwritten, ← String.toList_inj, List.map_eq_flatMap, PlainText.toList_unlines_flatMap,
      PlainText.toList_unlines_flatMap,
      flatMap_eq_flatMap_iff fun item _ => hshorter item]
    simp only [hlines]
    conv => rhs; rw [← List.zipIdx_map_fst 0 entries]
    rw [List.forall_mem_map]

/-- The second entry of the list counts as the first, since the one before it is deleted. -/
theorem plainText_mixedEntries :
    let docs := [(textOf "x").setDeleted (some true), textOf "a", paragraphOf "b"]
    let list := ofKind (.list docs .number)
    (∀ entry ∈ docs, entry.isDeleted = false → entry.IsTextEntry) ∧
      list.plainText = "1. a\n2. \nb\n" ∧ list.plainText ≠ "1. a\n2. b\n" := by
  intro docs list
  have hentries : ∀ entry ∈ docs, entry.isDeleted = false → entry.IsTextEntry := by
    simp only [docs, List.forall_mem_cons]
    exact ⟨fun hlive => Bool.noConfusion hlive,
      fun _ => ⟨.inl (isPlain_textOf "a"), by decide +kernel⟩,
      fun _ => ⟨.inr (isPlainParagraph_paragraphOf "b"), by decide +kernel⟩, by simp⟩
  obtain ⟨hwritten, hmarked⟩ := plainText_list ⟨[], .unset⟩ .number docs hentries
  refine ⟨hentries, hwritten.trans (by decide +kernel), fun heq => ?_⟩
  have hlive : paragraphOf "b" ∈ docs.filter fun entry => !entry.isDeleted :=
    List.mem_filter.2 ⟨by simp [docs], rfl⟩
  have hempty := (hmarked rfl).1 (heq.trans (by decide +kernel)) _ hlive rfl
  exact absurd hempty (by decide +kernel)

/-- **A paragraph leaves the line of its marker.** -/
theorem listedParagraph_leaves_marker :
    let list := ofKind (.list [paragraphOf "a"] .number)
    list.plainText = "1. \na\n" ∧
      list.plainText ≠ ListModel.number.marker 1 ++ " " ++ (paragraphOf "a").fullText ++ "\n" := by
  decide +kernel

end Doc

end Bindery
