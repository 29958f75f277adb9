import Bindery.Style.Bag
import Bindery.Node.Parts
import Bindery.Proofs.Entries

/-!
# Registered types resolve to themselves

A registry is filled in order, and what is registered first under a tag stays.  So a registry can be
read off the types that were registered and their tags: under a tag stands the first type with this
tag (`Registry.get?_ofTypes`), and the tags of the entries are those of the types, each where it
first occurs (`Registry.map_fst_entries_ofTypes`).  Both follow from what registering one type does,
which adds an entry if the tag is new and changes nothing otherwise.

If the types of a list have different tags, each of them is the first with its tag, and a tag that
is in small letters resolves to the type it was made from (`Registry.resolve?_tag`).  The three
families of this library are of this kind, which is a finite check on their type names.  That check
is made once for each family, and everything that reads a persisted tree back uses only
`resolve?_templates_tag`, `resolve?_documents_tag` and `resolve?_styles_tag`.
-/

namespace Bindery

namespace Registry

variable {α : Type}

/-! ## One type -/

theorem isSome_get?_iff {registry : Registry α} {tag : String} :
    (registry.get? tag).isSome = true ↔ tag ∈ registry.entries.map Prod.fst := by
  rw [get?, Option.isSome_map, List.find?_isSome, List.mem_map]
  simp only [beq_iff_eq]

theorem family_register (registry : Registry α) (typeName : String) (value : α) :
    (registry.register typeName value).family = registry.family := by
  unfold register
  split <;> rfl

/-- Registering a type puts it under its tag, unless something stands there. -/
theorem get?_register (registry : Registry α) (typeName : String) (value : α) (tag : String) :
    (registry.register typeName value).get? tag =
      (registry.get? tag).or
        (Entries.get? [(registry.family.tag typeName, value)] tag) := by
  unfold register
  split
  · next hold =>
    by_cases htag : registry.family.tag typeName = tag
    · rw [contains, htag] at hold
      rw [Option.or_of_isSome hold]
    · rw [Entries.get?_eq_none (by simpa using Ne.symm htag), Option.or_none]
  · exact Entries.get?_append _ _ tag

/-- Registering a type adds its tag at the end, unless it is there. -/
theorem map_fst_entries_register (registry : Registry α) (typeName : String) (value : α) :
    (registry.register typeName value).entries.map Prod.fst =
      if registry.family.tag typeName ∈ registry.entries.map Prod.fst
      then registry.entries.map Prod.fst
      else registry.entries.map Prod.fst ++ [registry.family.tag typeName] := by
  unfold register
  rw [contains]
  by_cases hold : registry.family.tag typeName ∈ registry.entries.map Prod.fst
  · rw [if_pos hold, if_pos (isSome_get?_iff.2 hold)]
  · rw [if_neg hold, if_neg (mt isSome_get?_iff.1 hold), List.map_append, List.map_singleton]

/-! ## Many types -/

/-- Types under their tags, which may repeat. -/
def tagged (family : Family) (types : List (String × α)) : List (String × α) :=
  types.map fun type => (family.tag type.1, type.2)

theorem tagged_append_singleton (family : Family) (types : List (String × α))
    (type : String × α) :
    tagged family (types ++ [type]) = tagged family types ++ [(family.tag type.1, type.2)] :=
  List.map_append

theorem ofTypes_append_singleton (family : Family) (types : List (String × α))
    (type : String × α) :
    ofTypes family (types ++ [type]) = (ofTypes family types).register type.1 type.2 :=
  List.foldl_append

@[simp] theorem family_ofTypes (family : Family) (types : List (String × α)) :
    (ofTypes family types).family = family := by
  induction types using List.reverseRecOn with
  | nil => rfl
  | append_singleton types type ih => rw [ofTypes_append_singleton, family_register, ih]

/-- **Under a tag stands the first type with this tag.** -/
theorem get?_ofTypes (family : Family) (types : List (String × α)) (tag : String) :
    (ofTypes family types).get? tag = Entries.get? (tagged family types) tag := by
  induction types using List.reverseRecOn with
  | nil => rfl
  | append_singleton types type ih =>
    rw [ofTypes_append_singleton, get?_register, ih, family_ofTypes, tagged_append_singleton,
      Entries.get?_append]

/-- **The tags of a registry** are those of the types, each where it first occurs. -/
theorem map_fst_entries_ofTypes (family : Family) (types : List (String × α)) :
    (ofTypes family types).entries.map Prod.fst =
      ((tagged family types).map Prod.fst).eraseDups := by
  induction types using List.reverseRecOn with
  | nil => rfl
  | append_singleton types type ih =>
    rw [ofTypes_append_singleton, map_fst_entries_register, family_ofTypes, ih,
      tagged_append_singleton, List.map_append, List.map_singleton, eraseDups_append_singleton]
    simp only [List.mem_eraseDups]

/-- A tag in small letters resolves to what it was made for. -/
theorem resolve?_tag {family : Family} {types : List (String × α)} {name : String} {value : α}
    (h : ((tagged family types).map Prod.fst).Nodup) (hmem : (name, value) ∈ types)
    (hsmall : Text.lowercase (family.tag name) = family.tag name) :
    (ofTypes family types).resolve? (family.tag name) = some value := by
  have hfound : (ofTypes family types).get? (family.tag name) = some value := by
    rw [get?_ofTypes]
    exact Entries.get?_of_mem h (List.mem_map.2 ⟨(name, value), hmem, rfl⟩)
  simp only [resolve?, hsmall, hfound]

end Registry

/-! ## The three families -/

/-- The law of an enumeration says in particular that every value is listed. -/
theorem Enumeration.mem_values {α : Type} [Enumeration α] (value : α) :
    value ∈ Enumeration.values (α := α) :=
  List.mem_of_find?_eq_some (Enumeration.find_name value)

namespace Registry

/-- The types of an enumeration, each under its type name.  What is left to check is about the
finite list of its values. -/
theorem resolve?_enumerated {α : Type} [Enumeration α] (family : Family) (typeName : α → String)
    (hkeys : (Enumeration.values.map fun value : α => family.tag (typeName value)).Nodup)
    (hsmall : ∀ value ∈ Enumeration.values (α := α),
      Text.lowercase (family.tag (typeName value)) = family.tag (typeName value))
    (value : α) :
    (ofTypes family (Enumeration.values.map fun value : α => (typeName value, value))).resolve?
      (family.tag (typeName value)) = some value := by
  have hmem := Enumeration.mem_values value
  apply resolve?_tag
  · rw [tagged, List.map_map, List.map_map]
    exact hkeys
  · exact List.mem_map.2 ⟨value, hmem, rfl⟩
  · exact hsmall value hmem

/-- The tag of a template node resolves to its kind. -/
theorem resolve?_templates_tag (kind : NodeKind) :
    templates.resolve? (Family.template.tag kind.templateName) = some kind :=
  resolve?_enumerated .template NodeKind.templateName (by decide +kernel) (by decide +kernel) kind

/-- The tag of a document node resolves to its kind. -/
theorem resolve?_documents_tag (kind : NodeKind) :
    documents.resolve? (Family.document.tag kind.documentName) = some kind :=
  resolve?_enumerated .document NodeKind.documentName (by decide +kernel) (by decide +kernel) kind

/-- The tag of a style resolves to its kind. -/
theorem resolve?_styles_tag (kind : StyleKind) :
    styles.resolve? (Style.tag kind) = some kind :=
  resolve?_enumerated .style StyleKind.typeName (by decide +kernel) (by decide +kernel) kind

end Registry

end Bindery
