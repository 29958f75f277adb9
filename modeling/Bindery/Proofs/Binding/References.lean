import Bindery.Proofs.Binding.Passes
import Bindery.Proofs.Doc.References

/-!
# References in bound documents

In a bound document whose expressions are numbered, every span with a number refers to the
expression of that number (`Template.refersTo_of_bindDocument`).  Whether the number is drawn is
another matter (`Template.carries_iff_of_bindDocument`).  A span whose text is its own, be it fixed
or from the model, draws one run that carries the number.  A span with spans draws runs for the
leaves in it, and they carry the numbers of what they refer to themselves.

Markup splits a text into spans of its own, which refer to nothing.  So a reference is lost in the
drawing as soon as the text of its span is marked up (`Template.markedReference_loses_number`).
-/

namespace Bindery

namespace Template

variable {options : Options} {template : Template} {model : Json} {doc : Doc}

/-- **A span with a number refers to the expression with that number**, everywhere in a bound
document, whether or not its catalogs are filled. -/
theorem refersTo_of_bindDocument (hoptions : options.numberExpressions = true)
    (h : template.bindDocument options model = .ok doc) {span : Doc} {index : UInt32}
    (hspan : span ∈ doc.everywhere) (hindex : span.reference? = some (some index)) :
    doc.RefersTo span index := by
  obtain ⟨bound, -, hfresh, rfl⟩ := exists_of_bindDocument h
  have hnumbered : bound.numberExpressions.IsNumbered :=
    Doc.isNumbered_numberExpressions fun node' hnode => (hfresh node' hnode).1
  have hcatalogs := Doc.isUncataloged_numberExpressions fun node' hnode => (hfresh node' hnode).2
  rw [Options.finish, hoptions, if_pos rfl] at hspan ⊢
  split at hspan
  · next hfilled =>
    rw [if_pos hfilled]
    exact hnumbered.refersTo_fillCatalogs hcatalogs hspan hindex
  · next hfilled =>
    rw [if_neg hfilled]
    exact hnumbered.refersTo hcatalogs hspan hindex

/-- The leaves of the spans that markup makes are these spans, and they refer to nothing. -/
theorem reference?_of_mem_runs {source : SpanSource} {scope : Json} {run : Doc}
    (h : run ∈ source.runs scope) : run.leaves.own.filterMap Doc.reference? = [none] := by
  unfold SpanSource.runs at h
  split at h
  · split at h
    · obtain ⟨run, -, rfl⟩ := List.mem_map.1 h
      rfl
    · exact absurd h List.not_mem_nil
  · exact absurd h List.not_mem_nil

/-- **Which references are drawn.**  A span with a number refers to an expression with that number.
If the span is drawn, then a run of text carries the number if and only if the span has no spans or
some leaf in it refers to an expression with the same number itself.  If its spans are those that
the markup of a text makes, then there is a run for each of them, and none carries any number. -/
theorem carries_iff_of_bindDocument (hoptions : options.numberExpressions = true)
    (h : template.bindDocument options model = .ok doc) {span : Doc} {index : UInt32}
    (hspan : span ∈ doc.everywhere) (hlive : span.isDeleted = false)
    (hindex : span.reference? = some (some index)) (inherited : Option Doc.Inherited) :
    doc.RefersTo span index ∧
    (Doc.Carries (span.drawing.events inherited) index ↔
      span.kind.children = [] ∨
        ∃ leaf ∈ span.kind.children.flatMap (·.leaves.own),
          leaf.reference? = some (some index) ∧ doc.RefersTo leaf index) ∧
    ∀ (source : SpanSource) (scope : Json), span.kind.children = source.runs scope →
      span.kind.children ≠ [] →
        (span.drawing.events inherited).filterMap Doc.Event.carried? =
          List.replicate span.kind.children.length none := by
  have hcarried := Doc.carried_events hlive hindex inherited
  refine ⟨refersTo_of_bindDocument hoptions h hspan hindex, ?_, ?_⟩
  · rw [Doc.carries_iff, hcarried]
    split
    · next hempty => simp [List.isEmpty_iff.1 hempty]
    · next hspans =>
      have hne : span.kind.children ≠ [] := fun hnone => hspans (List.isEmpty_iff.2 hnone)
      rw [List.mem_filterMap, or_iff_right hne]
      constructor
      · rintro ⟨leaf, hleaf, hnumber⟩
        have hmem := Doc.everywhere_subset hspan (Doc.mem_everywhere_of_mem_flatMap_leaves hleaf)
        exact ⟨leaf, hleaf, hnumber, refersTo_of_bindDocument hoptions h hmem hnumber⟩
      · rintro ⟨leaf, hleaf, hnumber, -⟩
        exact ⟨leaf, hleaf, hnumber⟩
  · intro source scope hruns hne
    have hnone : ∀ run ∈ span.kind.children, run.leaves.own.filterMap Doc.reference? = [none] :=
      fun run hrun => reference?_of_mem_runs (hruns ▸ hrun)
    rw [hcarried, if_neg (by rwa [List.isEmpty_iff]), List.filterMap_flatMap,
      List.flatMap_congr hnone, ← List.map_eq_flatMap, List.map_const']

/-- An expression, and two spans that refer to it: one with a plain text, and one with a text that
is marked up. -/
def twoReferences : Template :=
  let reference (value : String) : Template :=
    ofKind (.span [] { SpanSource.scope with value := some value, reference := some "e" })
  multi [ofKind (.expression (some "e") (some (text "f"))), reference "see ", reference "<b>x</b>"]

/-- The plain text carries the number. -/
theorem plainReference_carries :
    ∃ doc span, twoReferences.bindDocument .standard .null = .ok doc ∧ span ∈ doc.everywhere ∧
      span.isDeleted = false ∧ span.fullText = "see " ∧
      Doc.Carries (span.drawing.events none) 1 := by
  have hspan : ∃ doc, twoReferences.bindDocument .standard .null = .ok doc ∧
      ∃ span ∈ doc.everywhere, span.isDeleted = false ∧ span.fullText = "see " ∧
        span.reference? = some (some 1) ∧ span.kind.children.isEmpty = true :=
    ⟨_, rfl, by decide +kernel⟩
  obtain ⟨doc, hdoc, span, hspan, hlive, htext, hindex, hchildren⟩ := hspan
  obtain ⟨-, hcarries, -⟩ :=
    @carries_iff_of_bindDocument .standard twoReferences .null doc rfl hdoc span 1 hspan hlive
      hindex none
  exact ⟨doc, span, hdoc, hspan, hlive, htext, hcarries.2 (Or.inl (List.isEmpty_iff.1 hchildren))⟩

/-- **The text that is marked up loses the number**: its span has the number and draws a run, but no
run carries the number. -/
theorem markedReference_loses_number :
    ∃ doc span, twoReferences.bindDocument .standard .null = .ok doc ∧ span ∈ doc.everywhere ∧
      span.isDeleted = false ∧ span.reference? = some (some 1) ∧
      (span.drawing.events none).filterMap Doc.Event.carried? = [none] ∧
      ¬ Doc.Carries (span.drawing.events none) 1 := by
  have hspan : ∃ doc, twoReferences.bindDocument .standard .null = .ok doc ∧
      ∃ span ∈ doc.everywhere, span.isDeleted = false ∧ span.reference? = some (some 1) ∧
        (span.drawing.events none).filterMap Doc.Event.carried? = [none] :=
    ⟨_, rfl, by decide +kernel⟩
  obtain ⟨doc, hdoc, span, hspan, hlive, hindex, hcarried⟩ := hspan
  refine ⟨doc, span, hdoc, hspan, hlive, hindex, hcarried, ?_⟩
  rw [Doc.carries_iff, hcarried]
  decide

end Template

end Bindery
