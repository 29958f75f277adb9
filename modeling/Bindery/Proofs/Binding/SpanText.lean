import Bindery.Binding.Basic
import Bindery.Doc.Content
import Bindery.Proofs.Markup.Conservation
import Bindery.Template.Build

/-!
# The texts of bound spans

A span without spans of its own is bound to the runs of its text if the text has tags.  The text of
the bound span is then the texts of the runs one after the other, and no pair of tags is left in it.

Whether there is markup is asked of the text, but whether the text is replaced is asked of the spans
that came out of it.  The two differ where the text has tags and no runs.  Then the text is made up
of pairs of tags and blanks alone (`Markup.exists_forest_of_runs_eq_nil`), and just these tags,
which are all paired, are in the text of the bound span (`Template.emptyPair_keeps_tags`).
-/

namespace Bindery

/-- A text without runs is a forest of blank texts. -/
theorem Markup.exists_forest_of_runs_eq_nil {text : String} (h : runs text = []) :
    ∃ forest : Forest, forest.written = text.toList ∧
      ∀ leaf ∈ forest.leaves [], Text.isBlank leaf.text = true := by
  obtain ⟨forest, hwritten, hruns⟩ := exists_forest_runs_eq text
  rw [h, Forest.runs, Forest.runsWithin] at hruns
  have hnone := List.filter_eq_nil_iff.1 (List.map_eq_nil_iff.1 hruns.symm)
  refine ⟨forest, hwritten, fun leaf hleaf => ?_⟩
  by_contra hblank
  exact hnone leaf hleaf (by simp [hblank])

/-- The text of a forest has tags if the parts of the forest have any. -/
theorem Markup.hasTag_of_written {forest : Forest} (h : forest.WellFormed) {text : String}
    (hwritten : forest.written = text.toList) :
    hasTag text.toList = forest.pieces.any Piece.isTag := by
  rw [← hwritten, hasTag, Forest.pieces_written h]

/-- A text in the plain format is the text itself. -/
theorem SpanFormat.apply_plain_string (text : String) : apply plain (.string text) = some text :=
  apply_plain _

namespace Doc

theorem fullText_ofRun (run : Markup.Run) : (ofRun run).fullText = run.text :=
  fullText_span _ _ _

end Doc

namespace Template

variable {source : SpanSource} {scope : Json} {marked : String}

/-- What a span without spans of its own becomes. -/
theorem bind_span (head : Head) (source : SpanSource) (scope : Json) :
    (node head (.span [] source)).bind scope =
      some (head.toDoc (.span (source.runs scope) (source.text scope (source.runs scope)))) := by
  rw [bind, binding_node]
  rfl

theorem SpanSource.runs_eq_map (htext : source.markupText? scope = some marked)
    (htag : Markup.hasTag marked.toList = true) :
    source.runs scope = (Markup.runs marked).map Doc.ofRun := by
  rw [runs, htext]
  exact if_pos htag

/-- The text of a bound span: that of its runs, or else the text that it has without markup. -/
theorem fullText_toDoc_span (head : Head) (htext : source.markupText? scope = some marked)
    (htag : Markup.hasTag marked.toList = true) :
    (head.toDoc (.span (source.runs scope) (source.text scope (source.runs scope)))).fullText =
      if Markup.runs marked = [] then (source.plainText scope).getD ""
      else String.join ((Markup.runs marked).map Markup.Run.text) := by
  rw [SpanSource.runs_eq_map htext htag, Head.toDoc, Doc.fullText_span]
  by_cases hruns : Markup.runs marked = []
  · rw [if_pos hruns, hruns]
    rfl
  · have hempty : ((Markup.runs marked).map Doc.ofRun).isEmpty = false := by
      rw [List.isEmpty_map, List.isEmpty_eq_false_iff]
      exact hruns
    rw [if_neg hruns, hempty, List.map_map]
    simp only [Bool.false_eq_true, if_false, Function.comp_def, Doc.fullText_ofRun]

/-- Without markup, a text of the template is shown as it is, and one of the scope if the format is
the plain one. -/
theorem SpanSource.plainText_eq (htext : source.markupText? scope = some marked)
    (hshown : source.literal?.isSome ∨ source.format = SpanFormat.plain) :
    source.plainText scope = some marked := by
  rw [markupText?] at htext
  rw [plainText]
  cases hliteral : source.literal? with
  | some literal =>
    rw [hliteral, Option.some_or] at htext
    rw [Option.some_or, htext]
  | none =>
    have hformat : source.format = SpanFormat.plain := by
      simpa [hliteral] using hshown
    rw [hliteral, Option.none_or] at htext
    rw [Option.none_or]
    cases scope with
    | string s =>
      obtain rfl := Option.some.inj htext
      rw [hformat, SpanFormat.apply_plain_string]
    | _ => exact absurd htext (by simp [Json.string?])

/-- **The text of a span with markup.**  It is that of the runs if and only if there are runs, or
nothing is shown without markup either.  If there are none, then all tags of the text are paired
with nothing but blanks between them; and the text is shown with these tags if it is one of the
template, or one of the scope in the plain format. -/
theorem fullText_eq_join_iff (head : Head) (htext : source.markupText? scope = some marked)
    (htag : Markup.hasTag marked.toList = true) :
    ∃ span, (node head (.span [] source)).bind scope = some span ∧
      (span.fullText = String.join ((Markup.runs marked).map Markup.Run.text) ↔
        Markup.runs marked ≠ [] ∨ (source.plainText scope).getD "" = "") ∧
      (Markup.runs marked = [] →
        (∃ forest : Markup.Forest, forest.written = marked.toList ∧
          ∀ leaf ∈ forest.leaves [], Text.isBlank leaf.text = true) ∧
        (source.literal?.isSome ∨ source.format = SpanFormat.plain → span.fullText = marked)) := by
  refine ⟨_, bind_span head source scope, ?_, fun hruns => ⟨?_, fun hshown => ?_⟩⟩
  · rw [fullText_toDoc_span head htext htag]
    by_cases hruns : Markup.runs marked = []
    · have hjoin : String.join ((Markup.runs marked).map Markup.Run.text) = "" := by
        rw [hruns]
        rfl
      rw [if_pos hruns, hjoin, or_iff_right (not_not_intro hruns)]
    · rw [if_neg hruns]
      exact iff_of_true rfl (Or.inl hruns)
  · exact Markup.exists_forest_of_runs_eq_nil hruns
  · rw [fullText_toDoc_span head htext htag, if_pos hruns, SpanSource.plainText_eq htext hshown]
    rfl

theorem markupText?_text (value : String) (hblank : Text.isBlank value.toList = false)
    (scope : Json) :
    ({ SpanSource.scope with value := some value } : SpanSource).markupText? scope =
      some value := by
  simp [SpanSource.markupText?, SpanSource.literal?, hblank]

/-- A pair of tags around a text is not seen in the text of the span. -/
theorem pairAroundText_loses_tags :
    ∃ span, (text "<sup>x</sup>").bind .null = some span ∧ span.fullText = "x" := by
  let forest : Markup.Forest := .element Markup.superscriptPair (.text ['x'] .nil) .nil
  have hforest : forest.WellFormed := by
    simp [forest, Markup.Forest.WellFormed, Markup.Forest.startsWithText]
  have hruns : Markup.runs "<sup>x</sup>" = [⟨"x", ⟨false, true⟩⟩] :=
    Markup.runs_of_written hforest rfl
  have htag : Markup.hasTag "<sup>x</sup>".toList = true := Markup.hasTag_of_written hforest rfl
  have htext := markupText?_text "<sup>x</sup>" (by decide) .null
  obtain ⟨span, hspan, hjoin, -⟩ :=
    fullText_eq_join_iff ⟨AccessPath.current, [], .unset⟩ htext htag
  rw [hruns] at hjoin
  exact ⟨span, hspan, hjoin.2 (Or.inl (List.cons_ne_nil _ _))⟩

/-- **A pair of tags around nothing is seen in the text of the span**, although its markup has no
runs. -/
theorem emptyPair_keeps_tags :
    Markup.hasTag "<sup></sup>".toList = true ∧ Markup.runs "<sup></sup>" = [] ∧
      ∃ span, (text "<sup></sup>").bind .null = some span ∧ span.fullText = "<sup></sup>" ∧
        span.fullText ≠ String.join ((Markup.runs "<sup></sup>").map Markup.Run.text) := by
  let forest : Markup.Forest := .element Markup.superscriptPair .nil .nil
  have hforest : forest.WellFormed := ⟨trivial, trivial⟩
  have htag : Markup.hasTag "<sup></sup>".toList = true := Markup.hasTag_of_written hforest rfl
  have hruns : Markup.runs "<sup></sup>" = [] := Markup.runs_of_written hforest rfl
  have htext := markupText?_text "<sup></sup>" (by decide) .null
  have hbind := bind_span ⟨AccessPath.current, [], .unset⟩
    { SpanSource.scope with value := some "<sup></sup>" } .null
  have hfull := fullText_toDoc_span ⟨AccessPath.current, [], .unset⟩ htext htag
  rw [if_pos hruns, SpanSource.plainText_eq htext (Or.inr rfl), Option.getD_some] at hfull
  refine ⟨htag, hruns, _, hbind, hfull, ?_⟩
  rw [hfull, hruns]
  decide

end Template

end Bindery
