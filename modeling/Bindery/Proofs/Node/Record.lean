import Bindery.Node.Parts
import Bindery.Proofs.Attribute.Scalar
import Bindery.Proofs.Entries

/-!
# Attribute records are read back

A record is written attribute by attribute, and some values leave no entry: absent ones, absent
nodes and empty lists.  Reading starts from the initial attributes of a kind and leaves alone what
has no entry.  So the record comes back only if an attribute that may be skipped is initially what
skipping it means: `Record.IsUnset` says that of a record, and `Record.load_slots` is the round trip
over any such record.

The nodes in a record are handled by whoever writes and reads them.  The round trip of a record
asks that each node in it comes back as some node, and gives the record of the nodes that came back
(`Record.map`).
-/

namespace Bindery

variable {ν μ : Type}

/-! ## One attribute -/

namespace AttributeType

/-- An attribute with the nodes in it replaced. -/
def map (f : ν → μ) : (type : AttributeType) → type.Value ν → type.Value μ
  | scalar _, value => value
  | node, value => Option.map f value
  | nodes, values => List.map f values

/-- The nodes in an attribute. -/
def nodesIn : (type : AttributeType) → type.Value ν → List ν
  | scalar _, _ => []
  | node, value => Option.toList value
  | nodes, values => values

/-- Whether an attribute that may be skipped is what skipping it means. -/
def IsUnset : (type : AttributeType) → type.Value ν → Prop
  | scalar (.optional _), value => value = none
  | scalar _, _ => True
  | node, value => value = none
  | nodes, values => values = []

/-- Whether the values of an attribute can be told apart when they are written. -/
def WellFormed : AttributeType → Bool
  | scalar type => type.WellFormed
  | node => true
  | nodes => true

/-- A scalar that is written is written as its value is. -/
theorem encode_of_encode?_scalar {type : Scalar} {value : type.Value} {encoded : Json}
    (h : (scalar type).encode? value = some encoded) : type.encode value = encoded := by
  simp only [encode?] at h
  split at h
  · exact absurd h (Option.some_ne_none _).symm
  · exact Option.some.inj h

/-- A scalar that is not written is absent. -/
theorem scalar_unset {type : Scalar} (hwell : type.WellFormed = true) {value old : type.Value}
    (hskip : (scalar type).encode? value = none) (hold : IsUnset (ν := ν) (scalar type) old) :
    old = value := by
  have hnull : type.encode value = .null := by
    simp only [encode?] at hskip
    split at hskip
    · next h => exact h
    · exact absurd hskip (Option.some_ne_none _)
  cases type with
  | optional inner =>
    rw [Scalar.WellFormed, Bool.and_eq_true] at hwell
    rw [Scalar.encode_optional_eq_null hwell.1 hnull]
    exact hold
  | flag | text | count | level | number | sequence =>
    exact absurd hnull (Scalar.encode_ne_null rfl value)
  | listModel | lineType | cellMerge | horizontalAlign | verticalAlign | scaling | compression =>
    exact absurd hnull (Scalar.encode_ne_null rfl value)

/-- **What is skipped is initially there.** -/
theorem unset_of_skipped {type : AttributeType} (hwell : type.WellFormed = true) {write : ν → Json}
    {g : ν → μ} {value : type.Value ν} {old : type.Value μ}
    (hskip : type.encode? (type.map write value) = none) (hold : type.IsUnset old) :
    old = type.map g value := by
  cases type with
  | scalar s => exact scalar_unset hwell hskip hold
  | node =>
    rw [Option.map_eq_none_iff.1 hskip]
    exact hold
  | nodes =>
    cases value with
    | nil => exact hold
    | cons child children => exact absurd hskip (Option.some_ne_none _)

end AttributeType

/-- Nodes that come back one by one come back as a list. -/
theorem nodesOf_ofItems {node : Entries (Reading μ) → Except Fault (Option μ)} {write : ν → Json}
    {g : ν → μ} {children : List ν}
    (h : ∀ child ∈ children, (Reading.of node (write child)).node = .ok (some (g child))) :
    nodesOf (Reading.ofItems node (children.map write)) = .ok (children.map g) := by
  induction children with
  | nil => rfl
  | cons child children ih =>
    rw [List.forall_mem_cons] at h
    rw [List.map_cons, Reading.ofItems, h.1, nodesOf, ih h.2]
    rfl

@[simp] theorem Reading.value_of (node : Entries (Reading μ) → Except Fault (Option μ))
    (value : Json) : (Reading.of node value).value = value := by
  cases value <;> simp [Reading.of]

/-- **What is written is read back.** -/
theorem AttributeType.load_encoded {type : AttributeType} (hwell : type.WellFormed = true)
    (owner name : String) {node : Entries (Reading μ) → Except Fault (Option μ)}
    {write : ν → Json} {g : ν → μ} {value : type.Value ν}
    (hnodes : ∀ child ∈ type.nodesIn value,
      (Reading.of node (write child)).node = .ok (some (g child)))
    (old : type.Value μ) {encoded : Json}
    (hencoded : type.encode? (type.map write value) = some encoded) :
    type.load owner name old (Reading.of node encoded) = .ok (type.map g value) := by
  cases type with
  | scalar s =>
    have heq : s.encode value = encoded := encode_of_encode?_scalar hencoded
    simp only [load, Reading.value_of, ← heq, Scalar.decode_encode s hwell value]
    rfl
  | node =>
    obtain ⟨child, rfl, rfl⟩ := Option.map_eq_some_iff.1 hencoded
    simp only [load, hnodes child (List.mem_singleton.2 rfl)]
    rfl
  | nodes =>
    cases value with
    | nil => exact absurd hencoded (Option.some_ne_none _).symm
    | cons child children =>
      have heq : Json.array (List.map write (child :: children)) = encoded :=
        Option.some.inj hencoded
      simp only [load, ← heq, Reading.of]
      exact nodesOf_ofItems hnodes

/-- An attribute whose nodes are replaced by equal ones is equal to what it was. -/
theorem AttributeType.agree_map {type : AttributeType} {same : ν → μ → Bool} {f : μ → ν}
    {value : type.Value μ} (h : ∀ child ∈ type.nodesIn value, same (f child) child = true) :
    type.agree same (type.map f value) value = true := by
  cases type with
  | scalar s => exact s.agree_self value
  | node => exact Scalar.agreeOption_map fun child hchild => h child (Option.mem_toList.2 hchild)
  | nodes => exact Scalar.agreeItems_map h

/-! ## Records -/

namespace Record

/-- A record with the nodes in it replaced. -/
def map (f : ν → μ) : (schema : Schema) → Record ν schema → Record μ schema
  | [], _ => ()
  | (_, type) :: schema, (value, record) => (type.map f value, map f schema record)

/-- The nodes in a record, in the order of the schema. -/
def nodes : (schema : Schema) → Record ν schema → List ν
  | [], _ => []
  | (_, type) :: schema, (value, record) => type.nodesIn value ++ nodes schema record

/-- Whether every attribute that may be skipped is what skipping it means. -/
def IsUnset : (schema : Schema) → Record ν schema → Prop
  | [], _ => True
  | (_, type) :: schema, (value, record) => type.IsUnset value ∧ IsUnset schema record

/-- The attributes of a record under their names, each with what is written for it. -/
def slots : (schema : Schema) → Record Json schema → List (String × Option Json)
  | [], _ => []
  | (name, type) :: schema, (value, record) => (name, type.encode? value) :: slots schema record

theorem map_fst_slots (schema : Schema) (record : Record Json schema) :
    (slots schema record).map Prod.fst = schema.map Prod.fst := by
  induction schema with
  | nil => rfl
  | cons field schema ih => rw [slots, List.map_cons, List.map_cons, ih]

theorem encode_eq_written (schema : Schema) (record : Record Json schema) :
    encode schema record = Entries.written (slots schema record) := by
  induction schema with
  | nil => rfl
  | cons field schema ih =>
    rw [encode, slots]
    split
    · next hskip => rw [hskip, Entries.written_cons_none, ih]
    · next hencoded => rw [hencoded, Entries.written_cons_some, ih]

/-- **A record is read back** over any unset record, from entries that answer each attribute by
what was written for it. -/
theorem load_slots {schema : Schema}
    (hwell : ∀ field ∈ schema, field.2.WellFormed = true) (owner : String)
    (node : Entries (Reading μ) → Except Fault (Option μ)) (write : ν → Json) {g : ν → μ}
    {record : Record ν schema}
    (hnodes : ∀ child ∈ nodes schema record,
      (Reading.of node (write child)).node = .ok (some (g child)))
    {entries : Entries (Reading μ)}
    (hentries : ∀ slot ∈ slots schema (map write schema record),
      entries.find? slot.1 = slot.2.map (Reading.of node))
    {initial : Record μ schema} (hinitial : IsUnset schema initial) :
    load owner entries schema initial = .ok (map g schema record) := by
  induction schema with
  | nil => rfl
  | cons field schema ih =>
    obtain ⟨name, type⟩ := field
    obtain ⟨value, record⟩ := record
    obtain ⟨old, initial⟩ := initial
    rw [List.forall_mem_cons] at hwell
    simp only [slots, map, List.forall_mem_cons] at hentries
    simp only [nodes, List.mem_append] at hnodes
    have hrest := ih hwell.2 (fun child h => hnodes child (Or.inr h)) hentries.2 hinitial.2
    cases hslot : type.encode? (type.map write value) with
    | none =>
      have hold := AttributeType.unset_of_skipped (g := g) hwell.1 hslot hinitial.1
      simp only [load, hentries.1, hslot, Option.map_none, hrest, hold]
      rfl
    | some encoded =>
      have hread := AttributeType.load_encoded hwell.1 owner name
        (fun child h => hnodes child (Or.inl h)) old hslot
      simp only [load, hentries.1, hslot, Option.map_some, hread, hrest]
      rfl

/-- A record whose nodes are replaced by equal ones is equal to what it was. -/
theorem agree_map {schema : Schema} {same : ν → μ → Bool} {f : μ → ν} {record : Record μ schema}
    (h : ∀ child ∈ nodes schema record, same (f child) child = true) :
    agree same schema (map f schema record) record = true := by
  induction schema with
  | nil => rfl
  | cons field schema ih =>
    obtain ⟨name, type⟩ := field
    obtain ⟨value, record⟩ := record
    simp only [nodes, List.mem_append] at h
    simp only [agree, map, Bool.and_eq_true]
    exact ⟨AttributeType.agree_map fun child hchild => h child (Or.inl hchild),
      ih fun child hchild => h child (Or.inr hchild)⟩

end Record

end Bindery
