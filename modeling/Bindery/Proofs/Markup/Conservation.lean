import Bindery.Proofs.Markup.Forest

/-!
# No text is lost or made up

Any text is the text of some forest, and reading it gives the runs of that forest
(`Markup.exists_forest_runs_eq`).  So whatever is wrong with its tags, a text is cut into texts and
tags, the tags that are dropped are paired and properly nested, and apart from them only blank texts
are dropped.  A tag that closes nothing or is never closed stays where it is, as part of a text.

The forest is built along the split of a level (`Forest.Splits`).  What is put in front of the first
text of a level is put in front of the first text of the forest, and an inner text, which is shorter
than the whole, is the text of a forest by induction.  A text of such a forest may hold anything,
also tags, so the forest is not `Forest.WellFormed`, and nothing is said about the pieces of its
text.
-/

namespace Bindery

namespace Markup

namespace Forest

/-- The segments of a level are those of a forest: its texts, and the texts of the forests in its
elements, which are read as the forest says. -/
inductive Splits : List Segment → Forest → Prop
  | nil : Splits [] nil
  | text {segments : List Segment} {rest : Forest} (t : List Char) (h : Splits segments rest) :
      Splits (.text t :: segments) (text t rest)
  | element {segments : List Segment} {inner rest : Forest} (pair : TagPair)
      (hinner : ∀ around, runsIn (scriptWithin around) inner.written = inner.runsWithin around)
      (h : Splits segments rest) :
      Splits (.inner pair.label inner.written :: segments) (element pair inner rest)

/-- The runs of the segments are those of the forest. -/
theorem Splits.runs_eq {segments : List Segment} {forest : Forest} (h : Splits segments forest)
    (around : List (List Char)) :
    segments.flatMap (Segment.runsIn (scriptWithin around)) = forest.runsWithin around := by
  induction h with
  | nil => rfl
  | text t _ ih =>
    rw [List.flatMap_cons, ih, runsWithin_text]
    rfl
  | element pair hinner _ ih =>
    rw [List.flatMap_cons, ih, runsWithin_element, ← hinner, ← scriptInside_scriptWithin]
    rfl

/-- Characters put before the text of a level. -/
theorem Splits.exists_prepend {segments : List Segment} {forest : Forest}
    (h : Splits segments forest) (before : List Char) :
    ∃ forest', Splits (prepend before segments) forest' ∧
      forest'.written = before ++ forest.written := by
  cases h with
  | nil => exact ⟨_, .text before .nil, rfl⟩
  | text t h => exact ⟨_, .text (before ++ t) h, List.append_assoc _ _ _⟩
  | element pair hinner h => exact ⟨_, .text before (.element pair hinner h), rfl⟩

theorem mem_prepend_of_mem (before : List Char) {label inner : List Char}
    {segments : List Segment} (h : .inner label inner ∈ segments) :
    .inner label inner ∈ prepend before segments := by
  unfold prepend
  split
  · exact List.mem_cons_of_mem _ ((List.mem_cons.1 h).resolve_left (by simp))
  · exact List.mem_cons_of_mem _ h

/-- **The segments of a level are those of a forest with the same text**, provided that this holds
of what lies inside of tags. -/
theorem exists_splits_segmentsOf {ps : List Piece} (hnamed : ∀ tag, .tag tag ∈ ps → tag.IsNamed)
    (hinner : ∀ label inner, .inner label inner ∈ segmentsOf ps → ∃ forest : Forest,
      forest.written = inner ∧
        ∀ around, runsIn (scriptWithin around) inner = forest.runsWithin around) :
    ∃ forest, Splits (segmentsOf ps) forest ∧ forest.written = ps.flatMap Piece.raw := by
  fun_induction segmentsOf ps with
  | case1 => exact ⟨_, .text [] .nil, rfl⟩
  | case2 c rest ih =>
    obtain ⟨forest, hsplits, hwritten⟩ := ih
      (fun tag htag => hnamed tag (List.mem_cons_of_mem _ htag))
      fun label inner h => hinner label inner (mem_prepend_of_mem _ h)
    obtain ⟨forest', hsplits', hwritten'⟩ := hsplits.exists_prepend [c]
    exact ⟨forest', hsplits', by rw [hwritten', hwritten]; rfl⟩
  | case3 tag rest hclosing ih =>
    obtain ⟨forest, hsplits, hwritten⟩ := ih
      (fun tag htag => hnamed tag (List.mem_cons_of_mem _ htag))
      fun label inner h => hinner label inner (mem_prepend_of_mem _ h)
    obtain ⟨forest', hsplits', hwritten'⟩ := hsplits.exists_prepend tag.raw
    exact ⟨forest', hsplits', by rw [hwritten', hwritten]; rfl⟩
  | case4 tag rest hclosing inner after hsplit hlength ih =>
    obtain ⟨closer, hcloses, hlabel, rfl⟩ := append_of_splitAtClose? hsplit
    obtain ⟨forest, hwritten, hruns⟩ := hinner tag.label _
      (List.mem_cons_of_mem _ List.mem_cons_self)
    have hopens : tag.closing = false := Bool.eq_false_iff.2 hclosing
    have hcloser : closer.IsNamed := hnamed closer (by simp)
    have hopener : tag.IsNamed := hnamed tag List.mem_cons_self
    obtain ⟨behind, hsplits, hbehind⟩ := ih (fun tag htag => hnamed tag (by simp [htag]))
      fun label inner h =>
        hinner label inner (List.mem_cons_of_mem _ (List.mem_cons_of_mem _ h))
    let pair : TagPair := ⟨tag, closer, hopener, hcloser, hopens, hcloses, hlabel⟩
    refine ⟨.text [] (.element pair forest behind), ?_, ?_⟩
    · rw [← hwritten] at hruns ⊢
      exact .text [] (.element pair hruns hsplits)
    · simp only [written, hwritten, hbehind, pair, List.nil_append, List.flatMap_cons,
        List.flatMap_append, Piece.raw, List.append_assoc]
  | case5 tag rest hclosing hsplit =>
    refine ⟨.text [] (.text (tag.raw ++ rest.flatMap Piece.raw) .nil), .text _ (.text _ .nil), ?_⟩
    simp only [written, List.nil_append, List.append_nil, List.flatMap_cons, Piece.raw]

/-- A text is the text of a forest, and is read as that forest says wherever it stands. -/
theorem exists_runsIn_eq (text : List Char) :
    ∃ forest : Forest, forest.written = text ∧
      ∀ around, runsIn (scriptWithin around) text = forest.runsWithin around := by
  induction hlength : text.length using Nat.strong_induction_on generalizing text with
  | _ n ih =>
    subst hlength
    have hinner : ∀ label inner, .inner label inner ∈ segments text → inner.length < text.length :=
      fun _ _ h => length_of_mem_segments h
    obtain ⟨forest, hsplits, hwritten⟩ := exists_splits_segmentsOf
      (fun _ htag => isNamed_of_mem_pieces htag) fun label inner h =>
        ih inner.length (hinner label inner h) inner rfl
    refine ⟨forest, hwritten.trans (Markup.flatMap_raw_pieces text), fun around => ?_⟩
    rw [runsIn_eq, ← hsplits.runs_eq]
    rfl

end Forest

/-- **Any text is read as a forest.**  A text is cut into texts and properly nested pairs of tags
with one label, and its runs are those of the texts that are not blank, in their order, each of them
unchanged and with the script of the pairs around it. -/
theorem exists_forest_runs_eq (text : String) :
    ∃ forest : Forest, forest.written = text.toList ∧ runs text = forest.runs := by
  obtain ⟨forest, hwritten, hruns⟩ := Forest.exists_runsIn_eq text.toList
  exact ⟨forest, hwritten, hruns []⟩

end Markup

end Bindery
