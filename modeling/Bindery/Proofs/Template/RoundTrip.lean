import Bindery.Proofs.Node.Parts
import Bindery.Proofs.Template.Tree
import Bindery.Template.Build
import Bindery.Template.Persisted

/-!
# A template that is written and read again

A template is written with one style of each kind at every node, and otherwise as it is.  What is
read back is therefore `Template.reduced`, the template in which every list of styles has been
reduced, and it is written like the template itself.

The family of templates is lawful (`lawful_family`), which is all that the schema of a kind has to
be checked for: its defaults against what is skipped in writing, its keys against each other, its
tag against the registry.  The round trip itself is the one of a single layer, lifted by induction.
-/

namespace Bindery

namespace Template

/-- The template with one style of each kind at every node. -/
def reduced : Template → Template :=
  fold fun head kind => node { head with styles := Style.dedup head.styles } kind

/-- No node of the template lists two styles of one kind. -/
def StylesDistinct : Template → Prop :=
  Everywhere fun head _ => Style.Distinct head.styles

theorem reduced_node (head : Head) (kind : Kind Template) :
    reduced (node head kind) =
      node { head with styles := Style.dedup head.styles } (kind.map reduced) :=
  fold_node _ head kind

theorem toJson_node (head : Head) (kind : Kind Template) :
    toJson (node head kind) = family.encode (parts head (kind.map toJson)) :=
  fold_node _ head kind

/-! ## Parts of a layer -/

theorem parts_map {ν μ : Type} (f : ν → μ) (head : Head) (kind : Kind ν) :
    parts head (kind.map f) = (parts head kind).map f := by
  cases kind <;> rfl

theorem nodes_parts {ν : Type} (head : Head) (kind : Kind ν) :
    (parts head kind).nodes = kind.nodes := by
  cases kind <;> simp [Parts.nodes, parts, ownRecord, Record.nodes, AttributeType.nodesIn,
    Kind.nodes, Kind.nodeKind, ownSchema]

/-- What is written of a layer are its styles, reduced, and its attributes. -/
theorem settled_parts {ν : Type} (head : Head) (kind : Kind ν) :
    (parts head kind).settled = parts { head with styles := Style.dedup head.styles } kind :=
  rfl

/-- **Templates are a lawful family.** -/
theorem lawful_family : family.Lawful where
  resolve_tag := Registry.resolve?_templates_tag
  nodup_keys kind := by cases kind <;> decide +kernel
  wellFormed_shared := by decide
  wellFormed_own kind := by cases kind <;> decide
  unset_shared ν := by simp [Record.IsUnset, AttributeType.IsUnset]
  unset_own ν kind := by cases kind <;> simp [Record.IsUnset, AttributeType.IsUnset, initialOwn]
  distinct_writtenStyles _ styles := Style.distinct_dedup styles
  writtenStyles_writtenStyles _ styles := Style.dedup_dedup styles

/-! ## Reading back -/

/-- Reading the object of a layer is reading the layer back. -/
theorem ofJson_encode (parts : Parts family Json) :
    ofJson (family.encode parts) =
      Option.map ofParts <$> family.read (NodeFamily.readBack read parts) := by
  rw [NodeFamily.encode_eq_written]
  simp only [ofJson, Reading.of]
  rfl

/-- **A template that is written and read again is the reduced one.** -/
theorem ofJson_toJson (template : Template) :
    ofJson template.toJson = .ok (some template.reduced) := by
  induction template using induct with
  | step head kind ih =>
    have hbelow : ∀ child ∈ (parts head kind).nodes,
        (Reading.of read (toJson child)).node = .ok (some (reduced child)) := by
      rw [nodes_parts]
      exact ih
    rw [toJson_node, parts_map, ofJson_encode, lawful_family.read_readBack hbelow, settled_parts,
      ← parts_map, reduced_node]
    exact congrArg (fun template => Except.ok (some template)) (ofParts_parts _ _)

/-- A reduced template is written like the template itself. -/
theorem toJson_reduced (template : Template) : template.reduced.toJson = template.toJson := by
  induction template using induct with
  | step head kind ih =>
    have hlayer : (kind.map reduced).map toJson = kind.map toJson := by
      rw [Kind.map_map]
      exact Kind.map_congr ih
    rw [reduced_node, toJson_node, toJson_node, hlayer, ← settled_parts,
      lawful_family.encode_settled]

/-- Where no node lists two styles of one kind there is nothing to reduce. -/
theorem reduced_of_stylesDistinct {template : Template} (h : template.StylesDistinct) :
    template.reduced = template := by
  induction h with
  | intro here _ ih =>
    rw [reduced_node, Kind.map_eq_self ih, Style.dedup_of_distinct here]

/-- **The round trip of templates.**  What is read back from a written template is the template
with its styles reduced at every node.  That is the template itself where no node lists two styles
of one kind, and in any case it is written with the same entries in the same order. -/
theorem read_reduced (template : Template) :
    ofJson template.toJson = .ok (some template.reduced) ∧
      (template.StylesDistinct → template.reduced = template) ∧
      template.reduced.toJson = template.toJson :=
  ⟨template.ofJson_toJson, reduced_of_stylesDistinct, template.toJson_reduced⟩

/-- A paragraph in a larger font and a colour, with a text. -/
def colouredParagraph : Template :=
  (paragraph [text "x"]).withStyles [.fontSize (.ofInt 20), .fontColor "#ff0000"]

/-- It has no two styles of one kind, so it is read back as it is. -/
theorem read_colouredParagraph :
    colouredParagraph.StylesDistinct ∧
      ofJson colouredParagraph.toJson = .ok (some colouredParagraph) := by
  have htext : (text "x").StylesDistinct := .intro Style.distinct_nil (by simp [Kind.nodes])
  have hdistinct : colouredParagraph.StylesDistinct := by
    refine .intro (by decide) fun child hchild => ?_
    obtain rfl := List.mem_singleton.1 hchild
    exact htext
  obtain ⟨hread, hreduced, -⟩ := read_reduced colouredParagraph
  rw [hreduced hdistinct] at hread
  exact ⟨hdistinct, hread⟩

end Template

end Bindery
