import Bindery.Doc.Persisted
import Bindery.Proofs.Doc.Tree
import Bindery.Proofs.Node.Parts

/-!
# A document that is written and read again

A document is written with its styles completed by the defaults of its kind, so a default comes back
as an explicit style.  What is read back is therefore `Doc.completed`, the document in which every
node lists its styles in full.  It has the same styles at every node, because completing styles
twice is completing them once (`Style.merge_merge`); so it is equal to the document and is written
like it.

`Doc.completed` also says what it means for two documents to have the same styles in the same order
at every place: that their completed forms are the same.

Equal documents need not be drawn alike, since a span without explicit styles takes over those of
the span around it.  That is the subject of `Proofs.Doc.Redrawing`.
-/

namespace Bindery

namespace Doc

/-- The document in which every node lists its styles in full. -/
def completed : Doc → Doc :=
  fold fun head kind => node { head with styles := effectiveStyles head.styles kind.nodeKind } kind

theorem completed_node (head : Head) (kind : Kind Doc) :
    completed (node head kind) =
      node { head with styles := effectiveStyles head.styles kind.nodeKind }
        (kind.map completed) := by
  rw [completed, fold_node, Kind.nodeKind_map]

theorem toJson_node (head : Head) (kind : Kind Doc) :
    toJson (node head kind) = family.encode (parts head (kind.map toJson)) :=
  fold_node _ head kind

@[simp] theorem effectiveStyles_effectiveStyles (styles : List Style) (kind : NodeKind) :
    effectiveStyles (effectiveStyles styles kind) kind = effectiveStyles styles kind :=
  Style.merge_merge _ _

/-! ## Parts of a layer -/

theorem parts_map {ν μ : Type} (f : ν → μ) (head : Head) (kind : Kind ν) :
    parts head (kind.map f) = (parts head kind).map f := by
  cases kind <;> rfl

theorem nodes_parts {ν : Type} (head : Head) (kind : Kind ν) :
    (parts head kind).nodes = kind.nodes := by
  cases kind <;> simp [Parts.nodes, parts, ownRecord, Record.nodes, AttributeType.nodesIn,
    Kind.nodes, Kind.nodeKind, ownSchema]

/-- What is written of a layer are its styles in full, and its attributes. -/
theorem settled_parts {ν : Type} (head : Head) (kind : Kind ν) :
    (parts head kind).settled =
      parts { head with styles := effectiveStyles head.styles kind.nodeKind } kind :=
  rfl

/-- **Documents are a lawful family.** -/
theorem lawful_family : family.Lawful where
  resolve_tag := Registry.resolve?_documents_tag
  nodup_keys kind := by cases kind <;> decide +kernel
  wellFormed_shared := by decide
  wellFormed_own kind := by cases kind <;> decide
  unset_shared ν := by simp [Record.IsUnset, AttributeType.IsUnset]
  unset_own ν kind := by cases kind <;> simp [Record.IsUnset, AttributeType.IsUnset, initialOwn]
  distinct_writtenStyles _ styles := Style.distinct_merge styles _
  writtenStyles_writtenStyles kind styles := effectiveStyles_effectiveStyles styles kind

/-! ## Reading back -/

/-- Reading the object of a layer is reading the layer back. -/
theorem ofJson_encode (parts : Parts family Json) :
    ofJson (family.encode parts) =
      Option.map ofParts <$> family.read (NodeFamily.readBack read parts) := by
  rw [NodeFamily.encode_eq_written]
  simp only [ofJson, Reading.of]
  rfl

/-- **A document that is written and read again is the completed one.** -/
theorem ofJson_toJson (doc : Doc) : ofJson doc.toJson = .ok (some doc.completed) := by
  induction doc using induct with
  | step head kind ih =>
    have hbelow : ∀ child ∈ (parts head kind).nodes,
        (Reading.of read (toJson child)).node = .ok (some (completed child)) := by
      rw [nodes_parts]
      exact ih
    rw [toJson_node, parts_map, ofJson_encode, lawful_family.read_readBack hbelow, settled_parts,
      ← parts_map, completed_node]
    exact congrArg (fun doc => Except.ok (some doc)) (ofParts_parts _ _)

/-- Completing a document twice is completing it once. -/
@[simp] theorem completed_completed (doc : Doc) : doc.completed.completed = doc.completed := by
  induction doc using induct with
  | step head kind ih =>
    have hlayer : (kind.map completed).map completed = kind.map completed := by
      rw [Kind.map_map]
      exact Kind.map_congr ih
    rw [completed_node, completed_node, hlayer, Kind.nodeKind_map, effectiveStyles_effectiveStyles]

/-- A completed document is written like the document itself. -/
theorem toJson_completed (doc : Doc) : doc.completed.toJson = doc.toJson := by
  induction doc using induct with
  | step head kind ih =>
    have hlayer : (kind.map completed).map toJson = kind.map toJson := by
      rw [Kind.map_map]
      exact Kind.map_congr ih
    have hkind : kind.nodeKind = (kind.map toJson).nodeKind := (Kind.nodeKind_map _ _).symm
    rw [completed_node, toJson_node, toJson_node, hlayer, hkind, ← settled_parts,
      lawful_family.encode_settled]

theorem agree_node (head head' : Head) (kind kind' : Kind Doc) :
    agree (node head kind) (node head' kind') =
      family.agree
        (fun a b =>
          Style.sameSet (effectiveStyles a.styles a.kind) (effectiveStyles b.styles b.kind))
        (fun same child => same child) (parts head (kind.map agree)) (parts head' kind') := by
  rw [agree, fold_node]

/-- A completed document is equal to the document itself. -/
theorem agree_completed (doc : Doc) : doc.completed.agree doc = true := by
  induction doc using induct with
  | step head kind ih =>
    rw [completed_node, agree_node, Kind.map_map, parts_map, ← settled_parts]
    have hbelow : ∀ child ∈ (parts head kind).nodes, (agree ∘ completed) child child = true := by
      rw [nodes_parts]
      exact ih
    rw [Parts.settled,
      NodeFamily.agree_map (fun (same : Doc → Bool) child => same child) (agree ∘ completed) _
        hbelow]
    simp only [Parts.map, parts, effectiveStyles_effectiveStyles, Style.sameSet_self]

/-- **The round trip of documents.**  What is read back from a written document is equal to it, has
the same styles in the same order at every node, and is written with the same entries in the same
order. -/
theorem read_completed (doc : Doc) :
    ∃ doc', ofJson doc.toJson = .ok (some doc') ∧ doc'.agree doc = true ∧
      doc'.completed = doc.completed ∧ doc'.toJson = doc.toJson :=
  ⟨doc.completed, doc.ofJson_toJson, doc.agree_completed, doc.completed_completed,
    doc.toJson_completed⟩

end Doc

end Bindery
