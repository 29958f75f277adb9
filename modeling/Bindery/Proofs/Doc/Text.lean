import Bindery.Proofs.Doc.RoundTrip
import Bindery.Proofs.Node.Written

/-!
# The text of a document

What is written of a document is read back as the completed document, which is equal to it.  Between
the two stands a text, and a text is read only if its arrays and objects nest no deeper than
`Json.depthLimit`, while any document can be printed.  That is the one thing that can go wrong
(`Doc.ofText_toText`): integers fit, keys differ, and numbers come back as they were.

So a document comes back from its text exactly if what is written of it nests within the limit, and
otherwise its text is refused as malformed (`Doc.comesBack_iff`).
-/

namespace Bindery

namespace Doc

/-- What is written of a document can be printed and read. -/
theorem wellFormed_toJson (doc : Doc) : doc.toJson.WellFormed := by
  induction doc using induct with
  | step head kind ih =>
    rw [toJson_node]
    apply lawful_family.wellFormed_encode
    rw [nodes_parts, Kind.nodes_map, List.forall_mem_map]
    exact ih

theorem ofRoot_toJson (doc : Doc) : ofRoot doc.toJson = .ok doc.completed := by
  rw [ofRoot, ofJson_toJson, requireRoot]

/-- **The text of a document** is read as the completed document, or refused for its depth. -/
theorem ofText_toText (doc : Doc) :
    ofText doc.toText =
      if doc.toJson.depth ≤ Json.depthLimit then .ok doc.completed
      else .error (.text .malformed) := by
  rw [ofText, toText, readText_pretty_bind doc.wellFormed_toJson, ofRoot_toJson]

/-- **A document comes back from its text exactly if it nests within the limit.**  What comes back
is equal to it and is written as the same text.  The text of any other document is refused. -/
theorem comesBack_iff (doc : Doc) :
    ((∃ doc', ofText doc.toText = .ok doc' ∧ doc'.agree doc = true ∧ doc'.toText = doc.toText) ↔
      doc.toJson.depth ≤ Json.depthLimit) ∧
    (Json.depthLimit < doc.toJson.depth → ofText doc.toText = .error (.text .malformed)) := by
  have htext := doc.ofText_toText
  by_cases hdepth : doc.toJson.depth ≤ Json.depthLimit
  · rw [if_pos hdepth] at htext
    have hsame : doc.completed.toText = doc.toText := congrArg Json.pretty doc.toJson_completed
    exact ⟨iff_of_true ⟨doc.completed, htext, doc.agree_completed, hsame⟩ hdepth,
      fun hdeep => absurd hdepth (Nat.not_le.2 hdeep)⟩
  · rw [if_neg hdepth] at htext
    have hnone : ¬∃ doc', ofText doc.toText = .ok doc' ∧ doc'.agree doc = true ∧
        doc'.toText = doc.toText := by
      rintro ⟨doc', hread, -⟩
      rw [htext] at hread
      cases hread
    exact ⟨iff_of_false hnone hdepth, fun _ => htext⟩

end Doc

end Bindery
