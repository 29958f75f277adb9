import Bindery.Doc.PlainText
import Bindery.Proofs.Doc.Drawing
import Mathlib.Data.List.Infix

/-!
# What plain text takes back

A document is written without looking ahead, so what stands in the text should still stand there
when more nodes follow.  Only the number of an expression touches what is written already: it goes
to the end of a line that has been ended, and the line break moves behind it.  The line is meant to
be the last one of the expression.  If the expression has written nothing, it is the last line of
whatever stands before the expression.

* `PlainText.opensWithNumber`: whether the number of an expression is the first thing to be written.
* `PlainText.suffix_foldl_iff`: events leave what is written exactly if they do not open with a
  number after a line break.  What makes this an equivalence is that nothing ever reaches further
  back than that: once something is written behind some characters, those stay
  (`PlainText.Exceeds.foldl`), be they all that was written or all of it up to the line break.
* `Doc.plainText_prefix_append`: what this says of nodes one after the other.
-/

namespace Bindery

/-- Whether an event makes the number of an expression appear. -/
def Doc.Event.isNumber : Doc.Event → Bool
  | .leave (.expression _) => true
  | _ => false

namespace PlainText

open Doc (Block Event TextRun)

/-! ## One event -/

@[simp] theorem reversed_append (text : PlainText) (chars : List Char) :
    (text.append chars).reversed = chars.reverse ++ text.reversed := rfl

theorem suffix_append (text : PlainText) (chars : List Char) :
    text.reversed <:+ (text.append chars).reversed :=
  List.suffix_append _ _

theorem suffix_endLine (text : PlainText) : text.reversed <:+ text.endLine.reversed := by
  rw [endLine]
  split
  · exact List.suffix_rfl
  · exact List.suffix_rfl
  · exact text.suffix_append _

theorem suffix_enter (text : PlainText) (block : Block) :
    text.reversed <:+ (text.enter block).reversed := by
  cases block with
  | paragraph indent =>
    cases indent with
    | false => exact text.suffix_endLine
    | true => exact text.suffix_endLine.trans (suffix_append _ _)
  | sect | table | row => exact text.suffix_endLine
  | cell =>
    rw [enter]
    dsimp only
    split
    · exact List.suffix_rfl
    · exact text.suffix_append _
  | item => exact (text.suffix_endLine.trans (suffix_append _ _)).trans (suffix_append _ _)
  | catalogEntry => exact text.suffix_endLine.trans (suffix_append _ _)
  | document | header | footer | tableHeader | list | conditional | group | singleRow | catalog
  | expression => exact List.suffix_rfl

theorem suffix_write (text : PlainText) (run : TextRun) :
    text.reversed <:+ (text.write run).reversed := by
  rw [write]
  split
  · exact text.suffix_append _
  · exact (text.suffix_append _).trans (suffix_append _ _)

theorem suffix_ownLine (text : PlainText) (chars : List Char) :
    text.reversed <:+ (text.ownLine chars).reversed :=
  (text.suffix_endLine.trans (suffix_append _ _)).trans (suffix_endLine _)

/-- **Every event but a number** leaves what is written. -/
theorem suffix_take (text : PlainText) {event : Event} (h : event.isNumber = false) :
    text.reversed <:+ (text.take event).reversed := by
  cases event with
  | enter block styles => exact text.suffix_enter block
  | leave block =>
    cases block with
    | expression index => exact absurd h Bool.false_ne_true.symm
    | paragraph | row | item | catalogEntry | singleRow => exact text.suffix_endLine
    | document | header | footer | sect | table | tableHeader | cell | list | conditional | group
    | catalog => exact List.suffix_rfl
  | text run styles => exact text.suffix_write run
  | image source styles => exact text.suffix_ownLine _
  | line line styles =>
    rw [take]
    split
    · exact text.suffix_ownLine _
    · exact List.suffix_rfl
  | pageBreak => exact text.suffix_endLine.trans (suffix_append _ _)

/-- What is written is the reopened text, but for a line break at its end. -/
theorem reversed_reopenLine (text : PlainText) :
    text.reversed = text.reopenLine.reversed ∧ text.reversed.head? ≠ some '\n' ∨
      text.reversed = '\n' :: text.reopenLine.reversed := by
  rw [reopenLine]
  split
  · next before h => exact Or.inr h
  · next h =>
    refine Or.inl ⟨rfl, fun hhead => ?_⟩
    obtain ⟨before, hbefore⟩ := List.head?_eq_some_iff.1 hhead
    exact h before hbefore

theorem reopenLine_suffix (text : PlainText) : text.reopenLine.reversed <:+ text.reversed := by
  rcases text.reversed_reopenLine with ⟨h, -⟩ | h
  · exact h ▸ List.suffix_rfl
  · exact h ▸ List.suffix_cons _ _

theorem reversed_reopenLine_congr {text text' : PlainText} (h : text'.reversed = text.reversed) :
    text'.reopenLine.reversed = text.reopenLine.reversed := by
  rw [reopenLine, reopenLine, h]
  split <;> simp_all

/-- A number goes behind a blank to the end of the reopened line, and ends the line again. -/
theorem reversed_take_number (text : PlainText) (index : UInt32) :
    (text.take (.leave (.expression index))).reversed =
      '\n' :: (numberChars index).reverse ++ ' ' :: text.reopenLine.reversed := by
  simp [take, leave, numberChars, endLine]

/-! ## What stays -/

/-- Whether something is written behind these characters, which are given back to front. -/
def Exceeds (kept : List Char) (text : PlainText) : Prop :=
  kept <:+ text.reversed ∧ kept.length < text.reversed.length

theorem exceeds_take_number (text : PlainText) (index : UInt32) :
    Exceeds (' ' :: text.reopenLine.reversed) (text.take (.leave (.expression index))) := by
  rw [Exceeds, reversed_take_number]
  refine ⟨List.suffix_append _ _, ?_⟩
  simp only [List.cons_append, List.length_cons, List.length_append]
  omega

namespace Exceeds

variable {kept : List Char} {text : PlainText}

theorem of_suffix {text' : PlainText} (h : Exceeds kept text)
    (hsuffix : text.reversed <:+ text'.reversed) : Exceeds kept text' :=
  ⟨h.1.trans hsuffix, h.2.trans_le hsuffix.length_le⟩

/-- Behind which something is written, that is not reached by taking back a line break. -/
theorem suffix_reopenLine (h : Exceeds kept text) : kept <:+ text.reopenLine.reversed := by
  obtain ⟨hsuffix, hlength⟩ := h
  rcases text.reversed_reopenLine with ⟨hsame, -⟩ | hbreak
  · exact hsame ▸ hsuffix
  · rw [hbreak, List.suffix_cons_iff] at hsuffix
    rcases hsuffix with rfl | hsuffix
    · exact absurd (congrArg List.length hbreak) hlength.ne'
    · exact hsuffix

/-- **What something is written behind stays**, with something behind it. -/
theorem take (h : Exceeds kept text) (event : Event) : Exceeds kept (text.take event) := by
  by_cases hnumber : event.isNumber = true
  · obtain ⟨index, rfl⟩ : ∃ index, event = .leave (.expression index) := by
      unfold Event.isNumber at hnumber
      split at hnumber
      · exact ⟨_, rfl⟩
      · exact absurd hnumber Bool.false_ne_true
    obtain ⟨hsuffix, hlength⟩ := exceeds_take_number text index
    have hkept := h.suffix_reopenLine.trans (List.suffix_cons ' ' _)
    exact ⟨hkept.trans hsuffix, hkept.length_le.trans_lt hlength⟩
  · exact h.of_suffix (text.suffix_take (Bool.not_eq_true _ ▸ hnumber))

theorem foldl (h : Exceeds kept text) (events : List Event) :
    Exceeds kept (events.foldl PlainText.take text) := by
  induction events generalizing text with
  | nil => exact h
  | cons event events ih => exact ih (h.take event)

end Exceeds

/-! ## Events one after the other -/

/-- Whether the first thing that events write is the number of an expression. -/
def opensWithNumber (text : PlainText) : List Event → Bool
  | [] => false
  | event :: events =>
    if (text.take event).reversed = text.reversed then (text.take event).opensWithNumber events
    else event.isNumber

theorem suffix_foldl_of_not_opens {text : PlainText} {events : List Event}
    (h : text.opensWithNumber events = false) :
    text.reversed <:+ (events.foldl take text).reversed := by
  induction events generalizing text with
  | nil => exact List.suffix_rfl
  | cons event events ih =>
    rw [opensWithNumber] at h
    rw [List.foldl_cons]
    split at h
    · next hsame => exact hsame ▸ ih h
    · next hmore =>
      have hsuffix := text.suffix_take h
      have hlength : text.reversed.length < (text.take event).reversed.length :=
        hsuffix.length_le.lt_of_ne fun heq => hmore (hsuffix.eq_of_length heq).symm
      exact (Exceeds.foldl ⟨hsuffix, hlength⟩ events).1

theorem exceeds_foldl_of_opens {text : PlainText} {events : List Event}
    (h : text.opensWithNumber events = true) :
    Exceeds (' ' :: text.reopenLine.reversed) (events.foldl take text) := by
  induction events generalizing text with
  | nil => exact absurd h Bool.false_ne_true
  | cons event events ih =>
    rw [opensWithNumber] at h
    rw [List.foldl_cons]
    split at h
    · next hsame => exact reversed_reopenLine_congr hsame ▸ ih h
    · next hmore =>
      unfold Event.isNumber at h
      split at h
      · next index => exact (exceeds_take_number text index).foldl events
      · exact absurd h Bool.false_ne_true

/-- **Events leave what is written** exactly if they do not open with a number after a line
break. -/
theorem suffix_foldl_iff (text : PlainText) (events : List Event) :
    text.reversed <:+ (events.foldl take text).reversed ↔
      ¬ (text.reversed.head? = some '\n' ∧ text.opensWithNumber events = true) := by
  constructor
  · rintro hkept ⟨hbreak, hopens⟩
    have hnumber := (exceeds_foldl_of_opens hopens).1
    rcases text.reversed_reopenLine with ⟨-, hnot⟩ | hreopened
    · exact hnot hbreak
    · -- at one place in the text there would be both a line break and the blank before a number
      rw [hreopened] at hkept
      have heq := (List.suffix_of_suffix_length_le hkept hnumber le_rfl).eq_of_length rfl
      exact absurd (List.head_eq_of_cons_eq heq) (by decide)
  · intro h
    by_cases hopens : text.opensWithNumber events = true
    · have hnumber := (exceeds_foldl_of_opens hopens).1
      rcases text.reversed_reopenLine with ⟨hsame, -⟩ | hreopened
      · rw [hsame]
        exact (List.suffix_cons _ _).trans hnumber
      · exact absurd ⟨congrArg List.head? hreopened, hopens⟩ h
    · exact suffix_foldl_of_not_opens (Bool.not_eq_true _ ▸ hopens)

/-- Whatever events write, a line break is the most they take back. -/
theorem reopenLine_suffix_foldl (text : PlainText) (events : List Event) :
    text.reopenLine.reversed <:+ (events.foldl take text).reversed := by
  by_cases hopens : text.opensWithNumber events = true
  · exact (List.suffix_cons _ _).trans (exceeds_foldl_of_opens hopens).1
  · exact text.reopenLine_suffix.trans (suffix_foldl_of_not_opens (Bool.not_eq_true _ ▸ hopens))

/-! ## Nodes one after the other -/

/-- What is written for nodes one after the other. -/
def written (docs : List Doc) : PlainText :=
  (docs.flatMap Doc.events).foldl take empty

theorem written_append (docs more : List Doc) :
    written (docs ++ more) = (more.flatMap Doc.events).foldl take (written docs) := by
  rw [written, List.flatMap_append, List.foldl_append]
  rfl

end PlainText

namespace Doc

open PlainText (written)

/-- A group of nodes is written like the nodes. -/
theorem toList_plainText_multiElement {head : Head} (h : head.flags.isDeleted = false)
    (docs : List Doc) :
    (node head (.multiElement docs)).plainText.toList = (written docs).reversed.reverse := by
  have hevents : (node head (.multiElement docs)).events =
      within .group (effectiveStyles head.styles .multiElement) (docs.flatMap events) := by
    rw [events_of_live h, ← all_withDrawing]
    rfl
  rw [plainText, hevents, within, List.foldl_append, PlainText.toString, String.toList_ofList]
  rfl

/-- **Later nodes leave what is written for earlier ones**, except that they may take back the line
break at its end.  They do so exactly if the first thing that is written for them is the number of
an expression. -/
theorem plainText_prefix_append (head : Head) (docs more : List Doc) :
    let before := (node head (.multiElement docs)).plainText.toList
    let after := (node head (.multiElement (docs ++ more))).plainText.toList
    (before <+: after ↔ ¬ (before.getLast? = some '\n' ∧
      (written docs).opensWithNumber (more.flatMap events) = true)) ∧
    ∃ kept, kept <+: after ∧ (before = kept ∨ before = kept ++ ['\n']) := by
  intro before after
  by_cases hdeleted : head.flags.isDeleted = true
  · have hnothing (docs : List Doc) : (node head (.multiElement docs)).plainText.toList = [] := by
      have hnode : (node head (.multiElement docs)).isDeleted = true := hdeleted
      rw [plainText, events, Drawing.whole, events_of_isDeleted hnode]
      rfl
    have hbefore : before = [] := hnothing docs
    rw [hbefore]
    exact ⟨by simp, [], List.nil_prefix, Or.inl rfl⟩
  · rw [Bool.not_eq_true] at hdeleted
    have hbefore : before = (written docs).reversed.reverse :=
      toList_plainText_multiElement hdeleted docs
    have hafter : after =
        ((more.flatMap events).foldl PlainText.take (written docs)).reversed.reverse := by
      rw [← PlainText.written_append]
      exact toList_plainText_multiElement hdeleted (docs ++ more)
    rw [hbefore, hafter, List.reverse_prefix, List.getLast?_reverse]
    refine ⟨PlainText.suffix_foldl_iff _ _, (written docs).reopenLine.reversed.reverse, ?_, ?_⟩
    · exact List.reverse_prefix.2 (PlainText.reopenLine_suffix_foldl _ _)
    · rcases (written docs).reversed_reopenLine with ⟨hsame, -⟩ | hbreak
      · exact Or.inl (congrArg List.reverse hsame)
      · exact Or.inr ((congrArg List.reverse hbreak).trans List.reverse_cons)

/-- A paragraph and an expression with nothing in it: the number of the expression stands in the
line of the paragraph. -/
theorem emptyExpression_joins_line :
    let text := ofKind (.span [] ⟨some "a", none, none, none, none⟩)
    let paragraph := ofKind (.paragraph false [text])
    let expression := ofKind (.expression none none 4)
    (ofKind (.multiElement [paragraph])).plainText = "a\n" ∧
      (ofKind (.multiElement ([paragraph] ++ [expression]))).plainText = "a (4)\n" ∧
      ¬ (ofKind (.multiElement [paragraph])).plainText.toList <+:
        (ofKind (.multiElement ([paragraph] ++ [expression]))).plainText.toList := by
  decide +kernel

end Doc

end Bindery
