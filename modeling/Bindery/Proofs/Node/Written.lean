import Bindery.Proofs.Json.RoundTrip
import Bindery.Proofs.Node.Parts

/-!
# Written nodes are read back as text

A value survives being printed and read if its integers fit into a word and no object has a key
twice (`Json.WellFormed`).  Whatever is written of a node is such a value.  The integers are counts
and levels, of 32 bits each.  The keys of a node differ because its family is lawful, those of a bag
because it has one style of each kind, and those of a style because its fields have different names.

So the text of a node is read back as the value that was printed, and only its depth can stand in
the way (`readText_pretty`).
-/

namespace Bindery

/-- **The text of a value is read as that value**, or refused for its depth. -/
theorem readText_pretty {value : Json} (h : value.WellFormed) :
    readText value.pretty =
      if value.depth ≤ Json.depthLimit then .ok value else .error (.text .malformed) := by
  rw [readText, Json.ofText_pretty h]
  by_cases hdepth : value.depth ≤ Json.depthLimit
  · rw [if_pos hdepth, if_pos hdepth]
  · rw [if_neg hdepth, if_neg hdepth]

/-- What is made of the text of a value is made of that value, unless it nests too deep. -/
theorem readText_pretty_bind {α : Type} {value : Json} (h : value.WellFormed)
    (f : Json → Except Fault α) :
    readText value.pretty >>= f =
      if value.depth ≤ Json.depthLimit then f value else .error (.text .malformed) := by
  rw [readText_pretty h]
  split <;> rfl

/-! ## Attributes -/

theorem Json.wellFormed_ofInt {n : Int} (h : Json.Number.IsWord n) : (Json.ofInt n).WellFormed :=
  .number h

namespace Scalar

theorem wellFormed_count (value : UInt32) : (Json.ofNat value.toNat).WellFormed := by
  have hword : Json.Number.IsWord value.toNat := by
    have := value.toNat_lt
    constructor <;> omega
  exact Json.wellFormed_ofInt hword

theorem wellFormed_level (value : Int32) : (Json.ofInt value.toInt).WellFormed := by
  have hword : Json.Number.IsWord value.toInt := by
    have hlow := value.le_toInt
    have hhigh := value.toInt_lt
    constructor <;> omega
  exact Json.wellFormed_ofInt hword

/-- What is written for a scalar can be printed and read. -/
theorem wellFormed_encode (scalar : Scalar) (value : scalar.Value) :
    (scalar.encode value).WellFormed := by
  induction scalar with
  | flag => exact .bool value
  | text => exact .string value
  | count => exact wellFormed_count value
  | level => exact wellFormed_level value
  | number => exact .number trivial
  | listModel | lineType | cellMerge | horizontalAlign | verticalAlign | scaling | compression =>
    exact .string _
  | optional scalar ih =>
    cases value with
    | none => exact .null
    | some value => exact ih value
  | sequence scalar ih =>
    refine .array fun item hitem => ?_
    obtain ⟨value, -, rfl⟩ := List.mem_map.1 hitem
    exact ih value

end Scalar

/-- An attribute can be printed and read if the nodes in it can. -/
theorem AttributeType.wellFormed_of_encode? {type : AttributeType} {value : type.Value Json}
    (hnodes : ∀ child ∈ type.nodesIn value, child.WellFormed) {encoded : Json}
    (h : type.encode? value = some encoded) : encoded.WellFormed := by
  cases type with
  | scalar s => exact encode_of_encode?_scalar h ▸ s.wellFormed_encode value
  | node => exact hnodes encoded (Option.mem_toList.2 h)
  | nodes =>
    simp only [encode?] at h
    split at h
    · exact absurd h (Option.some_ne_none _).symm
    · exact Option.some.inj h ▸ .array hnodes

theorem Record.wellFormed_of_mem_slots {schema : Schema} {record : Record Json schema}
    (hnodes : ∀ child ∈ nodes schema record, child.WellFormed) {name : String} {encoded : Json}
    (hmem : (name, some encoded) ∈ slots schema record) : encoded.WellFormed := by
  induction schema with
  | nil => exact absurd hmem List.not_mem_nil
  | cons field schema ih =>
    obtain ⟨first, type⟩ := field
    obtain ⟨value, record⟩ := record
    simp only [nodes, List.mem_append] at hnodes
    rw [slots, List.mem_cons, Prod.mk.injEq] at hmem
    rcases hmem with ⟨-, hencoded⟩ | hmem
    · exact AttributeType.wellFormed_of_encode? (fun child h => hnodes child (Or.inl h))
        hencoded.symm
    · exact ih (fun child h => hnodes child (Or.inr h)) hmem

/-! ## Styles -/

theorem StyleRecord.wellFormed_encode {fields : List StyleField} (record : StyleRecord fields) :
    ∀ entry ∈ encode fields record, entry.2.WellFormed := by
  induction fields with
  | nil => exact fun entry hentry => absurd hentry List.not_mem_nil
  | cons field fields ih =>
    obtain ⟨value, record⟩ := record
    rw [encode, List.forall_mem_cons]
    exact ⟨field.scalar.wellFormed_encode value, ih record⟩

namespace Style

/-- The payload of a style can be printed and read. -/
theorem wellFormed_encode (style : Style) : style.encode.WellFormed := by
  have hkeys : ((StyleRecord.encode style.kind.fields style.record).map Prod.fst).Nodup := by
    rw [StyleRecord.map_fst_encode]
    exact style.kind.nodup_fields
  exact .object hkeys (StyleRecord.wellFormed_encode style.record)

/-- Kinds of styles are told apart by their tags. -/
theorem tag_injective : Function.Injective tag := by
  intro kind kind' h
  have hresolve := congrArg Registry.styles.resolve? h
  rw [Registry.resolve?_styles_tag, Registry.resolve?_styles_tag] at hresolve
  exact Option.some.inj hresolve

/-- A bag with one style of each kind can be printed and read. -/
theorem wellFormed_encodeBag {styles : List Style} (h : Distinct styles) :
    (encodeBag styles).WellFormed := by
  refine .object ?_ fun entry hentry => ?_
  · have hkeys := List.Nodup.map tag_injective h
    rwa [List.map_map] at hkeys ⊢
  · obtain ⟨style, -, rfl⟩ := List.mem_map.1 hentry
    exact style.wellFormed_encode

end Style

/-! ## Nodes -/

namespace NodeFamily

variable {family : NodeFamily}

theorem wellFormed_of_mem_slots (law : family.Lawful) {parts : Parts family Json}
    (hnodes : ∀ child ∈ parts.nodes, child.WellFormed) {key : String} {encoded : Json}
    (hmem : (key, some encoded) ∈ family.slots parts) : encoded.WellFormed := by
  rw [slots, List.mem_append, List.mem_cons, List.mem_append, List.mem_singleton] at hmem
  rcases hmem with (htag | hshared | hown) | hstyles
  · cases htag
    exact .string _
  · exact Record.wellFormed_of_mem_slots
      (fun child h => hnodes child (List.mem_append_left _ h)) hshared
  · exact Record.wellFormed_of_mem_slots
      (fun child h => hnodes child (List.mem_append_right _ h)) hown
  · rw [Prod.mk.injEq] at hstyles
    obtain ⟨-, hencoded⟩ := hstyles
    split at hencoded
    · exact absurd hencoded (Option.some_ne_none _)
    · exact Option.some.inj hencoded ▸ Style.wellFormed_encodeBag (law.distinct_writtenStyles _ _)

/-- **A written node can be printed and read** if the nodes below it can. -/
theorem Lawful.wellFormed_encode (law : family.Lawful) {parts : Parts family Json}
    (hnodes : ∀ child ∈ parts.nodes, child.WellFormed) : (family.encode parts).WellFormed := by
  rw [encode_eq_written]
  refine .object ?_ fun entry hentry => ?_
  · have hkeys : (family.keys parts.kind).Nodup := List.Nodup.of_map foldCase (law.nodup_keys _)
    rw [← map_fst_slots] at hkeys
    exact hkeys.sublist (Entries.map_fst_written_sublist _)
  · exact wellFormed_of_mem_slots law hnodes (Entries.mem_written.1 hentry)

end NodeFamily

end Bindery
