import Bindery.Proofs.Markup.WorkList
import Mathlib.Data.List.Basic
import Mathlib.Data.List.TakeWhile

/-!
# Forests of marked-up text

A text whose tags are paired is the written form of a forest: of texts and of elements, each of
which is a pair of tags around a forest again.  Reading keeps no stack of open tags.  One level of a
text is split at a time, only tags of one name count there, and what lies between a tag and the one
that closes it is carried as text and split anew.  That this finds the elements of a forest, however
tags of one name and of several names are nested in it, is `Markup.runs_written`.

## Why the right tag closes

A forest is balanced: passing over it leaves the number of open tags with a given label as it was,
whatever the label and whatever comes after it (`splitAtClose?_pieces`).  So the tag that closes an
element is found behind its forest, where the number of open tags is zero, and what is carried as
text is the forest between the tags.

The text of a forest also falls into the pieces that it was written with (`pieces_written`).  That
is what texts without `<` are for: a bracket in a text could belong to a tag that begins in one text
and ends in the next.

* `Markup.Forest`: the trees; `Forest.written` is their text.
* `Forest.leaves`: their texts with the names of the elements around each; `Forest.runs` is what
  they say of the text to be read.
-/

namespace Bindery

/-- Of the ASCII characters, only letters, digits and the underscore are word characters. -/
theorem Text.isWordChar_of_lt {c : Char} (h : c.toNat < 0x80) :
    isWordChar c = (c.isAlphanum || c == '_') := by
  have hranges : ∀ range ∈ wordRanges, 0x80 ≤ range.1 := by decide +kernel
  have hmem : wordRanges.mem c = false := by
    rw [CharRanges.mem, List.any_eq_false]
    intro range hrange
    have hstart := hranges range hrange
    simp only [Bool.and_eq_true, decide_eq_true_eq]
    omega
  rw [isWordChar, hmem, Bool.or_false]

namespace Markup

/-! ## Tags -/

namespace Tag

/-- The name of the tag has one or more characters, and they are word characters. -/
def IsNamed (tag : Tag) : Prop :=
  tag.name ≠ [] ∧ ∀ c ∈ tag.name, Text.isWordChar c = true

instance (tag : Tag) : Decidable tag.IsNamed :=
  decidable_of_iff (tag.name ≠ [] ∧ tag.name.all Text.isWordChar = true)
    (and_congr_right' List.all_eq_true)

theorem afterBracket?_name {tag : Tag} (h : tag.IsNamed) (rest : List Char) :
    afterBracket? tag.closing (tag.name ++ '>' :: rest) = some (tag, rest) := by
  have hend : Text.isWordChar '>' = false := Text.isWordChar_of_lt (by decide)
  have htake : (tag.name ++ '>' :: rest).takeWhile Text.isWordChar = tag.name := by
    rw [List.takeWhile_append_of_pos h.2, List.takeWhile_cons_of_neg (by rw [hend]; decide),
      List.append_nil]
  have hdrop : (tag.name ++ '>' :: rest).dropWhile Text.isWordChar = '>' :: rest := by
    rw [List.dropWhile_append_of_pos h.2, List.dropWhile_cons_of_neg (by rw [hend]; decide)]
  unfold afterBracket?
  rw [htake, hdrop]
  obtain ⟨closing, name⟩ := tag
  obtain ⟨c, name, rfl⟩ := List.exists_cons_of_ne_nil h.1
  rfl

/-- What a text starts with is read as the tag that is written there. -/
theorem first?_raw_append {tag : Tag} (h : tag.IsNamed) (rest : List Char) :
    first? (tag.raw ++ rest) = some (tag, rest) := by
  have hname := afterBracket?_name h rest
  obtain ⟨closing, name⟩ := tag
  cases closing with
  | true =>
    have hraw : (⟨true, name⟩ : Tag).raw ++ rest = '<' :: '/' :: (name ++ '>' :: rest) := by
      simp [raw]
    rw [hraw, first?]
    exact hname
  | false =>
    -- the name does not begin with the slash that would make this a closing tag
    obtain ⟨c, name, rfl⟩ := List.exists_cons_of_ne_nil h.1
    have hend : Text.isWordChar '/' = false := Text.isWordChar_of_lt (by decide)
    have hslash : c ≠ '/' := by
      rintro rfl
      exact Bool.false_ne_true (hend.symm.trans (h.2 '/' List.mem_cons_self))
    have hraw : (⟨false, c :: name⟩ : Tag).raw ++ rest = '<' :: c :: (name ++ '>' :: rest) := by
      simp [raw]
    rw [hraw, first?]
    · exact hname
    · intro text htext
      exact hslash (List.cons.inj htext).1

theorem isNamed_of_afterBracket? {closing : Bool} {text rest : List Char} {tag : Tag}
    (h : afterBracket? closing text = some (tag, rest)) : tag.IsNamed := by
  unfold afterBracket? at h
  split at h
  · split at h
    · exact absurd h (by simp)
    · next hne =>
      obtain ⟨rfl, -⟩ := Prod.mk.inj (Option.some.inj h)
      refine ⟨hne, fun c hc => ?_⟩
      exact List.mem_takeWhile_imp hc
  · exact absurd h (by simp)

theorem isNamed_of_first? {text rest : List Char} {tag : Tag} (h : first? text = some (tag, rest)) :
    tag.IsNamed := by
  unfold first? at h
  split at h
  · exact isNamed_of_afterBracket? h
  · exact isNamed_of_afterBracket? h
  · exact absurd h (by simp)

theorem first?_cons_of_ne {c : Char} (h : c ≠ '<') (text : List Char) :
    first? (c :: text) = none := by
  unfold first?
  split <;> simp_all

end Tag

/-! ## Pieces -/

/-- A tag that is written in front of a text is its first piece. -/
theorem pieces_raw_append {tag : Tag} (h : tag.IsNamed) (rest : List Char) :
    pieces (tag.raw ++ rest) = .tag tag :: pieces rest := by
  have hfirst := Tag.first?_raw_append h rest
  obtain ⟨c, text, htext⟩ := List.exists_cons_of_ne_nil (l := tag.raw ++ rest) (by simp [Tag.raw])
  rw [htext] at hfirst ⊢
  rw [pieces]
  split
  · next hsome =>
    rw [hfirst] at hsome
    obtain ⟨rfl, rfl⟩ := Prod.mk.inj (Option.some.inj hsome)
    rfl
  · next hnone =>
    rw [hfirst] at hnone
    exact absurd hnone (by simp)

/-- A text without `<` in front of another one is split into its characters. -/
theorem pieces_append {text : List Char} (h : '<' ∉ text) (rest : List Char) :
    pieces (text ++ rest) = text.map .char ++ pieces rest := by
  induction text with
  | nil => rfl
  | cons c text ih =>
    simp only [List.mem_cons, not_or] at h
    rw [List.cons_append, pieces]
    split
    · next hsome =>
      rw [Tag.first?_cons_of_ne (Ne.symm h.1)] at hsome
      exact absurd hsome (by simp)
    · rw [ih h.2]
      rfl

/-- The tags of a text are named. -/
theorem isNamed_of_mem_pieces {text : List Char} {tag : Tag} (h : .tag tag ∈ pieces text) :
    tag.IsNamed := by
  fun_induction pieces text with
  | case1 => exact absurd h List.not_mem_nil
  | case2 c text first rest hfirst _ ih =>
    rcases List.mem_cons.1 h with heq | hrest
    · rw [Piece.tag.inj heq]
      exact Tag.isNamed_of_first? hfirst
    · exact ih hrest
  | case3 c text _ ih =>
    rcases List.mem_cons.1 h with heq | hrest
    · exact absurd heq (by simp)
    · exact ih hrest

theorem flatMap_raw_chars (text : List Char) : (text.map Piece.char).flatMap Piece.raw = text := by
  induction text with
  | nil => rfl
  | cons c text ih => rw [List.map_cons, List.flatMap_cons, ih]; rfl

/-! ## Forests -/

/-- Two tags that close each other: an opening and a closing one with the same label. -/
structure TagPair where
  opener : Tag
  closer : Tag
  opener_named : opener.IsNamed
  closer_named : closer.IsNamed
  opener_opens : opener.closing = false
  closer_closes : closer.closing = true
  label_eq : closer.label = opener.label

/-- The label of both tags. -/
def TagPair.label (pair : TagPair) : List Char :=
  pair.opener.label

/-- Texts and elements, one after the other. -/
inductive Forest where
  | nil
  | text (text : List Char) (rest : Forest)
  /-- A forest between two tags, and what follows it. -/
  | element (pair : TagPair) (inner rest : Forest)

namespace Forest

/-- The text of a forest. -/
def written : Forest → List Char
  | nil => []
  | text t rest => t ++ rest.written
  | element pair inner rest =>
    pair.opener.raw ++ inner.written ++ pair.closer.raw ++ rest.written

/-- A text of a forest, and where it stands. -/
structure Leaf where
  /-- The labels of the elements around it, the innermost one first. -/
  around : List (List Char)
  text : List Char

/-- The texts of a forest in reading order, where the forest itself stands in elements with the
given labels. -/
def leaves (around : List (List Char)) : Forest → List Leaf
  | nil => []
  | text t rest => ⟨around, t⟩ :: rest.leaves around
  | element pair inner rest => inner.leaves (pair.label :: around) ++ rest.leaves around

/-- The script of a text in elements with the given labels: a subscript if any of them is `sub`, and
a superscript if any is `sup`. -/
def scriptWithin (around : List (List Char)) : Script :=
  ⟨around.contains ['s', 'u', 'b'], around.contains ['s', 'u', 'p']⟩

/-- A text of a forest as a run. -/
def Leaf.run (leaf : Leaf) : Run :=
  ⟨String.ofList leaf.text, scriptWithin leaf.around⟩

/-- The runs of a forest in elements with the given labels: the texts that are not blank. -/
def runsWithin (around : List (List Char)) (forest : Forest) : List Run :=
  ((forest.leaves around).filter fun leaf => !Text.isBlank leaf.text).map Leaf.run

/-- The runs of a forest. -/
def runs (forest : Forest) : List Run :=
  forest.runsWithin []

/-- The parts that a forest is written with. -/
def pieces : Forest → List Piece
  | nil => []
  | text t rest => t.map .char ++ rest.pieces
  | element pair inner rest =>
    .tag pair.opener :: inner.pieces ++ .tag pair.closer :: rest.pieces

/-- Whether a text comes first. -/
def startsWithText : Forest → Bool
  | text _ _ => true
  | _ => false

/-- The texts of the forest are not empty and have no `<`, and no two of them stand next to each
other. -/
def WellFormed : Forest → Prop
  | nil => True
  | text t rest => t ≠ [] ∧ '<' ∉ t ∧ rest.startsWithText = false ∧ rest.WellFormed
  | element _ inner rest => inner.WellFormed ∧ rest.WellFormed

theorem flatMap_raw_pieces (forest : Forest) :
    forest.pieces.flatMap Piece.raw = forest.written := by
  induction forest with
  | nil => rfl
  | text t rest ih => rw [pieces, List.flatMap_append, flatMap_raw_chars, ih, written]
  | element pair inner rest ihInner ihRest =>
    simp only [pieces, written, List.flatMap_append, List.flatMap_cons, List.cons_append, ihInner,
      ihRest, Piece.raw, List.append_assoc]

/-- **The text of a forest falls into the parts that it was written with.** -/
theorem pieces_written_append {forest : Forest} (h : forest.WellFormed) (after : List Char) :
    Markup.pieces (forest.written ++ after) = forest.pieces ++ Markup.pieces after := by
  induction forest generalizing after with
  | nil => rfl
  | text t rest ih =>
    obtain ⟨-, hbracket, -, hrest⟩ := h
    rw [written, List.append_assoc, pieces_append hbracket, ih hrest, pieces, List.append_assoc]
  | element pair inner rest ihInner ihRest =>
    obtain ⟨hinner, hrest⟩ := h
    simp only [written, List.append_assoc]
    rw [pieces_raw_append pair.opener_named, ihInner hinner, pieces_raw_append pair.closer_named,
      ihRest hrest, pieces]
    simp only [List.cons_append, List.append_assoc]

theorem pieces_written {forest : Forest} (h : forest.WellFormed) :
    Markup.pieces forest.written = forest.pieces := by
  have happend := pieces_written_append h []
  rwa [List.append_nil, Markup.pieces, List.append_nil] at happend

/-! ## Balance -/

section Balance

variable {label : List Char} {tag : Tag} (extra : Nat) (rest : List Piece)

theorem splitAtClose?_of_label_ne (h : tag.label ≠ label) :
    splitAtClose? label extra (.tag tag :: rest) =
      (splitAtClose? label extra rest).map fun (inner, after) => (.tag tag :: inner, after) := by
  simp [splitAtClose?, h]

theorem splitAtClose?_opener (h : tag.label = label) (hopens : tag.closing = false) :
    splitAtClose? label extra (.tag tag :: rest) =
      (splitAtClose? label (extra + 1) rest).map fun (inner, after) =>
        (.tag tag :: inner, after) := by
  simp [splitAtClose?, h, hopens]

theorem splitAtClose?_closer_succ (h : tag.label = label) (hcloses : tag.closing = true) :
    splitAtClose? label (extra + 1) (.tag tag :: rest) =
      (splitAtClose? label extra rest).map fun (inner, after) => (.tag tag :: inner, after) := by
  simp [splitAtClose?, h, hcloses]

theorem splitAtClose?_closer_zero (h : tag.label = label) (hcloses : tag.closing = true) :
    splitAtClose? label 0 (.tag tag :: rest) = some ([], rest) := by
  simp [splitAtClose?, h, hcloses]

end Balance

theorem splitAtClose?_chars (label : List Char) (extra : Nat) (t : List Char)
    (after : List Piece) :
    splitAtClose? label extra (t.map .char ++ after) =
      (splitAtClose? label extra after).map fun (inner, rest) => (t.map .char ++ inner, rest) := by
  induction t with
  | nil => simp
  | cons c t ih =>
    rw [List.map_cons, List.cons_append, splitAtClose?]
    simp only [ih, Option.map_map]
    rfl

/-- **A forest is balanced.**  The search for the tag that closes a label passes over it, however
many tags of the label are open. -/
theorem splitAtClose?_pieces (forest : Forest) (label : List Char) (extra : Nat)
    (after : List Piece) :
    splitAtClose? label extra (forest.pieces ++ after) =
      (splitAtClose? label extra after).map
        fun (inner, rest) => (forest.pieces ++ inner, rest) := by
  induction forest generalizing extra after with
  | nil => simp [pieces]
  | text t rest ih =>
    rw [pieces, List.append_assoc, splitAtClose?_chars, ih, Option.map_map]
    simp only [Function.comp_def, List.append_assoc]
  | element pair inner rest ihInner ihRest =>
    simp only [pieces, List.cons_append, List.append_assoc]
    by_cases hlabel : pair.opener.label = label
    · -- one more tag is open inside of the element, and behind it there are as many as before
      have hcloser : pair.closer.label = label := pair.label_eq.trans hlabel
      rw [splitAtClose?_opener _ _ hlabel pair.opener_opens, ihInner,
        splitAtClose?_closer_succ _ _ hcloser pair.closer_closes, ihRest]
      simp only [Option.map_map, Function.comp_def]
    · have hcloser : pair.closer.label ≠ label := fun h => hlabel (pair.label_eq.symm.trans h)
      rw [splitAtClose?_of_label_ne _ _ hlabel, ihInner, splitAtClose?_of_label_ne _ _ hcloser,
        ihRest]
      simp only [Option.map_map, Function.comp_def]

/-- The tag that closes an element is found behind the forest of the element. -/
theorem splitAtClose?_element (pair : TagPair) (inner : Forest) (after : List Piece) :
    splitAtClose? pair.label 0 (inner.pieces ++ .tag pair.closer :: after) =
      some (inner.pieces, after) := by
  have hcloser : pair.closer.label = pair.label := pair.label_eq
  rw [splitAtClose?_pieces, splitAtClose?_closer_zero _ hcloser pair.closer_closes]
  simp

/-! ## Runs -/

theorem scriptInside_scriptWithin (around : List (List Char)) (label : List Char) :
    scriptInside (scriptWithin around) label = scriptWithin (label :: around) := by
  unfold scriptInside scriptWithin
  split
  · next h => simp [h]
  · next hsub =>
    split
    · next h => simp [h]
    · next hsup => simp [Ne.symm hsub, Ne.symm hsup]

theorem runsWithin_text (around : List (List Char)) (t : List Char) (rest : Forest) :
    (text t rest).runsWithin around =
      (if Text.isBlank t then [] else [⟨String.ofList t, scriptWithin around⟩]) ++
        rest.runsWithin around := by
  simp only [runsWithin, leaves, List.filter_cons]
  cases Text.isBlank t <;> rfl

theorem runsWithin_element (around : List (List Char)) (pair : TagPair) (inner rest : Forest) :
    (element pair inner rest).runsWithin around =
      inner.runsWithin (pair.label :: around) ++ rest.runsWithin around := by
  simp only [runsWithin, leaves, List.filter_append, List.map_append]

end Forest

/-- The runs of a segment that stands in the given script. -/
def Segment.runsIn (script : Script) : Segment → List Run
  | .text t => if Text.isBlank t then [] else [⟨String.ofList t, script⟩]
  | .inner label t => Markup.runsIn (scriptInside script label) t

theorem flatMap_runs_pending? (script : Script) (segment : Segment) :
    (segment.pending? script).toList.flatMap Pending.runs = segment.runsIn script := by
  cases segment with
  | text t =>
    rw [Segment.pending?, Segment.runsIn]
    split <;> rfl
  | inner label t =>
    rw [Segment.runsIn, runsIn_eq_nestedRuns, Segment.pending?, Option.toList_some,
      List.flatMap_singleton, Pending.runs]

/-- The runs of a text are those of its segments. -/
theorem runsIn_eq (script : Script) (text : List Char) :
    runsIn script text = (segments text).flatMap (Segment.runsIn script) := by
  rw [runsIn_eq_nestedRuns, nestedRuns_eq, scan, List.filterMap_eq_flatMap_toList,
    List.flatMap_assoc]
  exact List.flatMap_congr fun segment _ => flatMap_runs_pending? script segment

/-- The first segment of a level is text. -/
theorem exists_text_of_segmentsOf (ps : List Piece) :
    ∃ text rest, segmentsOf ps = .text text :: rest := by
  fun_induction segmentsOf ps with
  | case1 => exact ⟨_, _, rfl⟩
  | case2 c rest ih =>
    obtain ⟨text, rest, h⟩ := ih
    rw [h]
    exact ⟨_, _, rfl⟩
  | case3 tag rest _ ih =>
    obtain ⟨text, rest, h⟩ := ih
    rw [h]
    exact ⟨_, _, rfl⟩
  | case4 => exact ⟨_, _, rfl⟩
  | case5 => exact ⟨_, _, rfl⟩

theorem segmentsOf_chars_append (t : List Char) (rest : List Piece) :
    segmentsOf (t.map .char ++ rest) = prepend t (segmentsOf rest) := by
  obtain ⟨text, segments, h⟩ := exists_text_of_segmentsOf rest
  induction t with
  | nil => rw [List.map_nil, List.nil_append, h]; rfl
  | cons c t ih =>
    rw [List.map_cons, List.cons_append, segmentsOf, ih, h]
    rfl

/-- A tag that is closed is a segment of its level, with what lies between as text. -/
theorem segmentsOf_of_closed {tag : Tag} {rest inner after : List Piece}
    (hopens : tag.closing = false) (h : splitAtClose? tag.label 0 rest = some (inner, after)) :
    segmentsOf (.tag tag :: rest) =
      .text [] :: .inner tag.label (inner.flatMap Piece.raw) :: segmentsOf after := by
  rw [segmentsOf]
  simp only [hopens, Bool.false_eq_true, if_false]
  split
  · next heq =>
    rw [h] at heq
    obtain ⟨rfl, rfl⟩ := Prod.mk.inj (Option.some.inj heq)
    rfl
  · next heq =>
    rw [h] at heq
    exact absurd heq (by simp)

namespace Forest

/-- An element is a segment of its level, with its forest as text. -/
theorem segmentsOf_element (pair : TagPair) (inner rest : Forest) :
    segmentsOf (element pair inner rest).pieces =
      .text [] :: .inner pair.label inner.written :: segmentsOf rest.pieces := by
  rw [pieces, List.cons_append,
    segmentsOf_of_closed pair.opener_opens (splitAtClose?_element pair inner rest.pieces),
    flatMap_raw_pieces]
  rfl

/-- Reading the text of a forest that stands in elements with the given labels. -/
theorem runsIn_written {forest : Forest} (h : forest.WellFormed) (around : List (List Char)) :
    runsIn (scriptWithin around) forest.written = forest.runsWithin around := by
  rw [runsIn_eq, segments, pieces_written h]
  induction forest generalizing around with
  | nil =>
    rw [pieces, segmentsOf]
    rfl
  | text t rest ih =>
    obtain ⟨-, -, hstarts, hrest⟩ := h
    rw [pieces, segmentsOf_chars_append, runsWithin_text, ← ih hrest]
    cases rest with
    | nil =>
      rw [pieces, segmentsOf]
      simp [prepend, Segment.runsIn]
    | text => exact absurd hstarts (by simp [startsWithText])
    | element pair inner rest =>
      rw [segmentsOf_element]
      simp [prepend, Segment.runsIn]
  | element pair inner rest ihInner ihRest =>
    obtain ⟨hinner, hrest⟩ := h
    rw [segmentsOf_element, runsWithin_element, ← ihRest hrest, ← ihInner hinner,
      List.flatMap_cons, List.flatMap_cons, Segment.runsIn, Segment.runsIn,
      scriptInside_scriptWithin, runsIn_eq, segments, pieces_written hinner]
    rfl

end Forest

/-- **Reading the text of a forest gives its texts**: those that are not blank, in reading order,
each of them unchanged and with the script of the elements around it. -/
theorem runs_written {forest : Forest} (h : forest.WellFormed) :
    runs (String.ofList forest.written) = forest.runs := by
  rw [runs, String.toList_ofList, Forest.runs, ← Forest.runsIn_written h]
  rfl

theorem runs_of_written {forest : Forest} (h : forest.WellFormed) {text : String}
    (hwritten : forest.written = text.toList) : runs text = forest.runs := by
  rw [← runs_written h, hwritten, String.ofList_toList]

/-- Tags around a subscript, of which the opening one is in capitals. -/
def subscriptPair : TagPair where
  opener := ⟨false, ['S', 'U', 'B']⟩
  closer := ⟨true, ['s', 'u', 'b']⟩
  opener_named := by decide
  closer_named := by decide
  opener_opens := rfl
  closer_closes := rfl
  label_eq := by decide

/-- Tags around a superscript. -/
def superscriptPair : TagPair where
  opener := ⟨false, ['s', 'u', 'p']⟩
  closer := ⟨true, ['s', 'u', 'p']⟩
  opener_named := by decide
  closer_named := by decide
  opener_opens := rfl
  closer_closes := rfl
  label_eq := rfl

/-- A text, and then a subscript that holds a subscript, a superscript and a blank. -/
def nestedScripts : Forest :=
  .text ['x'] (.element subscriptPair
    (.element subscriptPair (.text ['i'] .nil)
      (.element superscriptPair (.text ['2'] .nil) (.text [' '] .nil))) .nil)

/-- The inner tags of one name close each other, and the blank gives no run. -/
theorem runs_nestedScripts :
    nestedScripts.WellFormed ∧
      nestedScripts.written = "x<SUB><SUB>i</sub><sup>2</sup> </sub>".toList ∧
      runs (String.ofList nestedScripts.written) =
        [⟨"x", ⟨false, false⟩⟩, ⟨"i", ⟨true, false⟩⟩, ⟨"2", ⟨true, true⟩⟩] := by
  have h : nestedScripts.WellFormed := by
    simp [nestedScripts, Forest.WellFormed, Forest.startsWithText]
  have hwritten : nestedScripts.written = "x<SUB><SUB>i</sub><sup>2</sup> </sub>".toList := rfl
  have hruns : nestedScripts.runs =
      [⟨"x", ⟨false, false⟩⟩, ⟨"i", ⟨true, false⟩⟩, ⟨"2", ⟨true, true⟩⟩] := rfl
  exact ⟨h, hwritten, (runs_written h).trans hruns⟩

end Markup

end Bindery
