import Bindery.Doc.Content
import Bindery.Proofs.Doc.LineBreaks
import Bindery.Proofs.Doc.NestedRuns

/-!
# The lines of a plain text

Blocks end the line that they find, each on its own account, so a line may be ended from several
sides.  What keeps this from leaving blank lines is that a line is only ended if there is something
on it.  Two kinds of events are told apart here by where they may stand:

* events that write some characters wherever they stand (`PlainText.Writes`), which is what texts
  do (`Doc.IsPlain.writes`);
* events that write whole lines if they stand at the start of a line (`PlainText.WritesLines`),
  which is what paragraphs of text do.

Behind whole lines a text is at the start of a line again (`PlainText.AtLineStart.append_unlines`).
So events of the second kind can follow each other and stand in any block that writes nothing
itself, and together they write the lines of all of them.
-/

namespace Bindery

namespace PlainText

open Doc (Block Event Drawing within withDrawing)

/-! ## Ends of lines -/

@[simp] theorem append_nil (text : PlainText) : text.append [] = text := rfl

theorem append_append (text : PlainText) (chars more : List Char) :
    (text.append chars).append more = text.append (chars ++ more) := by
  simp [append]

/-- Whether there is no line to be ended. -/
def AtLineStart (text : PlainText) : Prop :=
  text.endLine = text

theorem atLineStart_empty : AtLineStart empty := rfl

theorem atLineStart_endLine (text : PlainText) : AtLineStart text.endLine := by
  obtain ⟨reversed, cellsInRow⟩ := text
  cases reversed with
  | nil => rfl
  | cons c before => by_cases hc : c = '\n' <;> simp [AtLineStart, endLine, append, hc]

theorem atLineStart_append_lineBreak (text : PlainText) (chars : List Char) :
    AtLineStart (text.append (chars ++ ['\n'])) := by
  simp [AtLineStart, endLine, append]

/-- A line is ended behind a character that is not a line break. -/
theorem endLine_append_singleton (text : PlainText) (chars : List Char) {c : Char} (hc : c ≠ '\n') :
    (text.append (chars ++ [c])).endLine = text.append (chars ++ [c] ++ ['\n']) := by
  have hreversed : (text.append (chars ++ [c])).reversed = c :: (text.append chars).reversed := by
    simp
  rw [endLine, ← append_append text (chars ++ [c])]
  split
  · next h => exact absurd (hreversed.symm.trans h) (List.cons_ne_nil _ _)
  · next h => exact absurd (List.head_eq_of_cons_eq (hreversed.symm.trans h)) hc
  · rfl

theorem endLine_append {chars : List Char} (hchars : chars ≠ []) (hline : '\n' ∉ chars)
    (text : PlainText) : (text.append chars).endLine = text.append (chars ++ ['\n']) := by
  obtain rfl | ⟨init, c, rfl⟩ := chars.eq_nil_or_concat
  · exact absurd rfl hchars
  · rw [List.concat_eq_append] at hline ⊢
    exact endLine_append_singleton text init fun hc => hline (by simp [hc])

/-- Lines one after the other, with a line break at the end of each. -/
def unlines (lines : List String) : String :=
  String.join (lines.map (· ++ "\n"))

@[simp] theorem unlines_nil : unlines [] = "" := rfl

theorem toList_unlines_append (lines more : List String) :
    (unlines (lines ++ more)).toList = (unlines lines).toList ++ (unlines more).toList := by
  simp [unlines]

theorem toList_unlines_flatMap {α : Type} (items : List α) (f : α → List String) :
    (unlines (items.flatMap f)).toList = items.flatMap fun item => (unlines (f item)).toList := by
  simp [unlines, List.map_flatMap, List.flatMap_assoc]

theorem toList_unlines_singleton (line : String) :
    (unlines [line]).toList = line.toList ++ ['\n'] := by
  simp [unlines]

/-- Behind whole lines a text is at the start of a line. -/
theorem AtLineStart.append_unlines {text : PlainText} (h : text.AtLineStart) (lines : List String) :
    AtLineStart (text.append (unlines lines).toList) := by
  obtain rfl | ⟨init, line, rfl⟩ := lines.eq_nil_or_concat
  · exact h
  · rw [List.concat_eq_append, toList_unlines_append, toList_unlines_singleton, ← List.append_assoc]
    exact atLineStart_append_lineBreak _ _

/-! ## Events that write characters -/

/-- Whether events write these characters, wherever they stand. -/
def Writes (events : List Event) (chars : List Char) : Prop :=
  ∀ text : PlainText, events.foldl take text = text.append chars

/-- Whether events write these lines if they stand at the start of a line. -/
def WritesLines (events : List Event) (lines : List String) : Prop :=
  ∀ text : PlainText, text.AtLineStart → events.foldl take text = text.append (unlines lines).toList

theorem Writes.append {events more : List Event} {chars others : List Char}
    (h : Writes events chars) (hmore : Writes more others) :
    Writes (events ++ more) (chars ++ others) := by
  intro text
  rw [List.foldl_append, h, hmore, append_append]

theorem Writes.flatMap {α : Type} {items : List α} {f : α → List Event} {g : α → List Char}
    (h : ∀ item ∈ items, Writes (f item) (g item)) :
    Writes (items.flatMap f) (items.flatMap g) := by
  induction items with
  | nil => exact fun _ => rfl
  | cons item items ih =>
    rw [List.forall_mem_cons] at h
    exact h.1.append (ih h.2)

namespace WritesLines

variable {events more : List Event} {lines others : List String}

theorem nil : WritesLines [] [] :=
  fun _ _ => rfl

theorem append (h : WritesLines events lines) (hmore : WritesLines more others) :
    WritesLines (events ++ more) (lines ++ others) := by
  intro text hstart
  rw [List.foldl_append, h text hstart, hmore _ (hstart.append_unlines lines), append_append,
    toList_unlines_append]

theorem flatMap {α : Type} {items : List α} {f : α → List Event} {g : α → List String}
    (h : ∀ item ∈ items, WritesLines (f item) (g item)) :
    WritesLines (items.flatMap f) (items.flatMap g) := by
  induction items with
  | nil => exact nil
  | cons item items ih =>
    rw [List.forall_mem_cons] at h
    exact h.1.append (ih h.2)

end WritesLines

/-! ## Blocks -/

theorem foldl_within (block : Block) (styles : List Style) (events : List Event)
    (text : PlainText) :
    (within block styles events).foldl take text =
      (events.foldl take (text.enter block)).leave block := by
  rw [within, List.foldl_append]
  rfl

/-- Whether a block writes nothing of its own at the start of a line. -/
def writesNothing : Block → Bool
  | .paragraph _ | .row | .cell .. | .item .. | .catalogEntry .. | .expression _ => false
  | .document | .header | .footer | .sect .. | .table | .tableHeader | .list _ | .conditional
  | .group | .singleRow _ | .catalog => true

theorem WritesLines.within {block : Block} (hblock : writesNothing block = true)
    (styles : List Style) {events : List Event} {lines : List String}
    (h : WritesLines events lines) : WritesLines (within block styles events) lines := by
  intro text hstart
  have henter : text.enter block = text := by
    cases block with
    | sect | table => exact hstart
    | document | header | footer | tableHeader | list | conditional | group | singleRow
    | catalog => rfl
    | paragraph | row | cell | item | catalogEntry | expression => exact Bool.noConfusion hblock
  have hleave : (text.append (unlines lines).toList).leave block =
      text.append (unlines lines).toList := by
    cases block with
    | singleRow => exact hstart.append_unlines lines
    | document | header | footer | sect | table | tableHeader | list | conditional | group
    | catalog => rfl
    | paragraph | row | cell | item | catalogEntry | expression => exact Bool.noConfusion hblock
  rw [foldl_within, henter, h text hstart, hleave]

/-- **A paragraph** that is not indented ends the line before it, and writes its text as a line if
it has any. -/
theorem Writes.foldl_paragraph {events : List Event} {line : String}
    (h : Writes events line.toList) (hbreak : '\n' ∉ line.toList) (styles : List Style)
    (text : PlainText) :
    (Doc.within (.paragraph false) styles events).foldl take text =
      text.endLine.append (unlines ([line].filter (· != ""))).toList := by
  rw [foldl_within, enter, h, leave, List.filter_singleton]
  by_cases hempty : line = ""
  · subst hempty
    exact text.atLineStart_endLine
  · have hchars : line.toList ≠ [] := fun hnil => hempty (String.toList_eq_nil_iff.1 hnil)
    rw [endLine_append hchars hbreak, bne_iff_ne.2 hempty, cond_true, toList_unlines_singleton]

end PlainText

namespace Doc

open PlainText (Writes WritesLines unlines)

/-! ## Text -/

/-- Whether a node is a live span without the number of an expression. -/
def isPlainSpan : Doc → Bool
  | node head (.span _ text) => !head.flags.isDeleted && text.referenceIndex.isNone
  | _ => false

/-- Whether a document is text and nothing else: it is a span with nothing but spans below it, all
of them live and without the number of an expression. -/
def IsPlain (doc : Doc) : Prop :=
  ∀ met ∈ doc.everywhere, met.isPlainSpan = true

instance (doc : Doc) : Decidable doc.IsPlain :=
  inferInstanceAs (Decidable (∀ met ∈ doc.everywhere, met.isPlainSpan = true))

theorem exists_eq_span_of_isPlainSpan {doc : Doc} (h : doc.isPlainSpan = true) :
    ∃ head spans text, doc = node head (.span spans text) ∧ head.flags.isDeleted = false ∧
      text.referenceIndex = none := by
  unfold isPlainSpan at h
  split at h
  · next head spans text =>
    rw [Bool.and_eq_true, Bool.not_eq_true', Option.isNone_iff_eq_none] at h
    exact ⟨head, spans, text, rfl, h⟩
  · exact Bool.noConfusion h

/-- **Text is written as it is**, inside whatever spans it stands. -/
theorem IsPlain.writes {doc : Doc} (h : doc.IsPlain) (inherited : Option Inherited) :
    Writes (doc.drawing.events inherited) doc.fullText.toList := by
  induction doc using induct generalizing inherited with
  | step head kind ih =>
    obtain ⟨head, spans, text, heq, hlive, hnumber⟩ :=
      exists_eq_span_of_isPlainSpan (h _ (mem_everywhere_self _))
    cases heq
    rw [events_span spans text hlive, fullText_span]
    cases hspans : spans.isEmpty with
    | true =>
      intro written
      simp [PlainText.take, PlainText.write, SpanText.run, hnumber]
    | false =>
      simp only [Bool.false_eq_true, if_false, String.toList_join, List.flatMap_map]
      exact Writes.flatMap fun child hchild =>
        ih child hchild (fun met hmet => h met (mem_everywhere_of_mem_nodes hchild hmet)) _

/-- A paragraph of text, without an indent. -/
inductive IsPlainParagraph : Doc → Prop
  | intro {head : Head} {spans : List Doc} (hspans : ∀ span ∈ spans, span.IsPlain) :
    IsPlainParagraph (node head (.paragraph false spans))

/-- A live paragraph of text is drawn as a block around events that write the text. -/
theorem IsPlainParagraph.events_eq {doc : Doc} (h : doc.IsPlainParagraph)
    (hlive : doc.isDeleted = false) :
    ∃ styles spanEvents, doc.events = within (.paragraph false) styles spanEvents ∧
      Writes spanEvents doc.fullText.toList := by
  obtain ⟨hspans⟩ := h
  rename_i head spans
  refine ⟨effectiveStyles head.styles .paragraph, spans.flatMap events, ?_, ?_⟩
  · have hlive : head.flags.isDeleted = false := hlive
    rw [events_of_live hlive, ← all_withDrawing]
    rfl
  · rw [fullText_paragraph, String.toList_join, List.flatMap_map]
    exact Writes.flatMap fun span hspan => (hspans span hspan).writes none

/-- The plain text of a document that writes lines. -/
theorem plainText_eq_unlines {doc : Doc} {lines : List String} (h : WritesLines doc.events lines) :
    doc.plainText = unlines lines := by
  apply String.toList_injective
  rw [plainText, h _ PlainText.atLineStart_empty, PlainText.toString]
  simp [PlainText.empty]

/-- A text. -/
def textOf (value : String) : Doc :=
  ofKind (.span [] ⟨some value, none, none, none, none⟩)

/-- A paragraph of one text. -/
def paragraphOf (value : String) : Doc :=
  ofKind (.paragraph false [textOf value])

theorem isPlain_textOf (value : String) : (textOf value).IsPlain := by
  rw [IsPlain, textOf, ofKind, everywhere_node]
  exact List.forall_mem_singleton.2 rfl

theorem isPlainParagraph_paragraphOf (value : String) : (paragraphOf value).IsPlainParagraph :=
  .intro (List.forall_mem_singleton.2 (isPlain_textOf value))

end Doc

end Bindery
