import Bindery.Proofs.Binding.SpanText
import Bindery.Proofs.Doc.Erasure
import Bindery.Proofs.Doc.Text
import Bindery.Proofs.Template.RoundTrip

/-!
# Texts of templates and of bound documents

A template that comes as text nests within the limit of the reader.  That says nothing about the
text of the document that it is bound to, because a document is written with more than there was in
the template: the spans of a text with markup, the cells that a row puts around its elements, the
entries of catalogs, and on every span the styles that it has by default.  The last of these happens
in every document with a text, and takes two levels.

Two levels are enough to leave the limit, as a text inside of groups shows.  A group takes two
levels in the template and in the document alike, so with `n` groups the template nests `2 * n + 1`
deep and the document `2 * n + 3` deep.  With 63 groups the template is read and bound, and the text
of the document is refused (`Template.textInGroups_refused`).
-/

namespace Bindery

/-! ## The text of a template -/

namespace Template

/-- What is written of a template can be printed and read. -/
theorem wellFormed_toJson (template : Template) : template.toJson.WellFormed := by
  induction template using induct with
  | step head kind ih =>
    rw [toJson_node]
    apply lawful_family.wellFormed_encode
    rw [nodes_parts, Kind.nodes_map, List.forall_mem_map]
    exact ih

theorem ofRoot_toJson (template : Template) : ofRoot template.toJson = .ok template.reduced := by
  rw [ofRoot, ofJson_toJson, requireRoot]

/-- **The text of a template** is read as the reduced template, or refused for its depth. -/
theorem ofText_toText (template : Template) :
    ofText template.toText =
      if template.toJson.depth ≤ Json.depthLimit then .ok template.reduced
      else .error (.text .malformed) := by
  rw [ofText, toText, readText_pretty_bind template.wellFormed_toJson, ofRoot_toJson]

end Template

/-! ## A text inside of groups -/

namespace Doc

/-- A text inside of so many groups. -/
def textInGroups : Nat → Doc
  | 0 => ofKind (.span [] ⟨some "x", none, none, none, none⟩)
  | n + 1 => ofKind (.multiElement [textInGroups n])

theorem toJson_group (doc : Doc) :
    (ofKind (.multiElement [doc])).toJson =
      .object [(typeKey, .string (family.tag .multiElement)),
        ("elements", .array [doc.toJson])] := by
  rw [ofKind, toJson_node]
  rfl

/-- The text itself takes three levels, with its styles. -/
theorem depth_textInGroups (n : Nat) : (textInGroups n).toJson.depth = 2 * n + 3 := by
  induction n with
  | zero => rfl
  | succ n ih =>
    rw [textInGroups, toJson_group]
    simp only [Json.depth, Json.depthItems, Json.depthEntries, ih]
    omega

theorem mem_live_textInGroups {n : Nat} {met : Doc} (h : met ∈ (textInGroups n).live) :
    ∃ m, met = textInGroups m := by
  induction n with
  | zero =>
    rw [textInGroups, ofKind, live_of_isDeleted_eq_false rfl] at h
    exact ⟨0, List.mem_singleton.1 h⟩
  | succ n ih =>
    rw [textInGroups, ofKind, live_of_isDeleted_eq_false rfl, Kind.children,
      List.flatMap_singleton, List.mem_cons] at h
    obtain rfl | h := h
    · exact ⟨n + 1, rfl⟩
    · exact ih h

theorem finish_textInGroups (options : Options) (n : Nat) :
    options.finish (textInGroups n) = textInGroups n := by
  apply finish_eq_self
  · intro met hmet ids before
    obtain ⟨m, rfl⟩ := mem_live_textInGroups hmet
    cases m <;> rfl
  · intro met hmet entries before
    obtain ⟨m, rfl⟩ := mem_live_textInGroups hmet
    cases m <;> rfl

end Doc

namespace Template

/-- A text inside of so many groups. -/
def textInGroups : Nat → Template
  | 0 => text "x"
  | n + 1 => multi [textInGroups n]

theorem toJson_group (template : Template) :
    (multi [template]).toJson =
      .object [(typeKey, .string (family.tag .multiElement)),
        ("access", .string AccessPath.current), ("elements", .array [template.toJson])] := by
  rw [multi, ofKind, toJson_node]
  rfl

/-- The text itself takes one level, since it has no styles yet. -/
theorem depth_textInGroups (n : Nat) : (textInGroups n).toJson.depth = 2 * n + 1 := by
  induction n with
  | zero => rfl
  | succ n ih =>
    rw [textInGroups, toJson_group]
    simp only [Json.depth, Json.depthItems, Json.depthEntries, ih]
    omega

theorem stylesDistinct_textInGroups (n : Nat) : (textInGroups n).StylesDistinct := by
  induction n with
  | zero => exact .intro Style.distinct_nil (by simp [Kind.nodes])
  | succ n ih =>
    refine .intro Style.distinct_nil fun child hchild => ?_
    obtain rfl := List.mem_singleton.1 hchild
    exact ih

theorem access_textInGroups (n : Nat) : (textInGroups n).binding.access = AccessPath.current := by
  cases n <;> rfl

/-- A span with a text becomes a span with the same text, unless the text is blank or has tags. -/
theorem bind_text {value : String} (hblank : Text.isBlank value.toList = false)
    (htag : Markup.hasTag value.toList = false) (scope : Json) :
    (text value).bind scope =
      some (Doc.ofKind (.span [] ⟨some value, none, none, none, none⟩)) := by
  have htext := markupText?_text value hblank scope
  have hruns : ({ SpanSource.scope with value := some value } : SpanSource).runs scope = [] := by
    rw [SpanSource.runs, htext]
    simp only [htag, Bool.false_eq_true, if_false]
  rw [text, ofKind, bind_span, hruns, SpanSource.text, SpanSource.plainText_eq htext (Or.inr rfl)]
  rfl

theorem bind_textInGroups (n : Nat) :
    (textInGroups n).bind .null = some (Doc.textInGroups n) := by
  induction n with
  | zero =>
    have hblank : Text.isBlank "x".toList = false := by decide
    have htag : Markup.hasTag "x".toList = false := by cbv
    exact bind_text hblank htag .null
  | succ n ih =>
    rw [bind] at ih
    have hscopes : AccessPath.scopes AccessPath.current .null = [.null] := rfl
    have hexpand : Binding.expandAll [(textInGroups n).binding] .null = [Doc.textInGroups n] := by
      rw [Binding.expandAll, List.flatMap_singleton, Binding.expand, access_textInGroups, hscopes,
        List.filterMap_cons, ih]
      rfl
    rw [bind, textInGroups, multi, ofKind, binding_node]
    simp only [Kind.map, List.map_cons, List.map_nil, bindingLayer, bindLayer, bindKind, hexpand]
    rfl

theorem readText_null : readText "null" = .ok .null := by
  have hpretty : Json.null.pretty = "null" := rfl
  rw [← hpretty, readText_pretty .null]
  rfl

/-- As text, the template is read and bound as long as there are no more than 63 groups. -/
theorem bindTexts_textInGroups (options : Options) {n : Nat} (hn : n ≤ 63) :
    bindTexts options (textInGroups n).toText "null" = .ok (Doc.textInGroups n) := by
  have hdepth : (textInGroups n).toJson.depth ≤ Json.depthLimit := by
    rw [depth_textInGroups, Json.depthLimit]
    omega
  have hread : ofText (textInGroups n).toText = .ok (textInGroups n) := by
    rw [ofText_toText, if_pos hdepth, reduced_of_stylesDistinct (stylesDistinct_textInGroups n)]
  have hchild : (textInGroups n).bindChild .null = some (Doc.textInGroups n) := by
    rw [bindChild, Binding.alone, access_textInGroups]
    exact bind_textInGroups n
  have hbind : (textInGroups n).bindDocument options .null = .ok (Doc.textInGroups n) := by
    rw [bindDocument, hchild]
    exact congrArg Except.ok (Doc.finish_textInGroups options n)
  rw [bindTexts, hread, readText_null]
  exact hbind

/-- **A document that is bound from a text and refused as one.**  With 63 groups around a text, the
template nests 127 deep and is bound; the document is written 129 deep. -/
theorem textInGroups_refused :
    ∃ doc, bindTexts .standard (textInGroups 63).toText "null" = .ok doc ∧
      Doc.ofText doc.toText = .error (.text .malformed) := by
  have hdepth : ¬(Doc.textInGroups 63).toJson.depth ≤ Json.depthLimit := by
    rw [Doc.depth_textInGroups, Json.depthLimit]
    decide
  refine ⟨Doc.textInGroups 63, bindTexts_textInGroups .standard (Nat.le_refl 63), ?_⟩
  rw [Doc.ofText_toText, if_neg hdepth]

end Template

end Bindery
