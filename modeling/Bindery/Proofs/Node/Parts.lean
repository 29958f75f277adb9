import Bindery.Proofs.Node.Record
import Bindery.Proofs.Style.Bag

/-!
# Persisted nodes are read back

A family of trees is *lawful* (`NodeFamily.Lawful`) if its tags resolve, the keys of a node differ
even up to case, what is skipped in writing is what a node has initially, and the styles it writes
are one of each kind.

For a lawful family `NodeFamily.read_slots` is the round trip of one layer: if every node below
comes back, the node comes back with the nodes that came back and with the styles that were
written.  Both families of trees are lawful, and their round trips are this theorem at every node.
-/

namespace Bindery

variable {ν μ : Type}

/-- The entries of an object have the readings of its values. -/
theorem Reading.ofEntries_eq_map (node : Entries (Reading ν) → Except Fault (Option ν))
    (entries : Entries Json) :
    ofEntries node entries = entries.map fun entry => (entry.1, of node entry.2) := by
  induction entries with
  | nil => rfl
  | cons entry entries ih =>
    obtain ⟨key, value⟩ := entry
    rw [ofEntries, ih, List.map_cons]

namespace Parts

variable {family : NodeFamily}

/-- A node with the nodes below it replaced. -/
def map (f : ν → μ) (parts : Parts family ν) : Parts family μ where
  kind := parts.kind
  styles := parts.styles
  shared := Record.map f family.shared parts.shared
  own := Record.map f (family.own parts.kind) parts.own

/-- The nodes below a node, in the order in which they are written. -/
def nodes (parts : Parts family ν) : List ν :=
  Record.nodes family.shared parts.shared ++ Record.nodes (family.own parts.kind) parts.own

/-- A node with the styles that are written for it. -/
def settled (parts : Parts family ν) : Parts family ν :=
  { parts with styles := family.writtenStyles parts.kind parts.styles }

end Parts

namespace NodeFamily

variable {family : NodeFamily}

/-- The keys of a node of a kind. -/
def keys (family : NodeFamily) (kind : NodeKind) : List String :=
  typeKey :: (family.shared ++ family.own kind).map Prod.fst ++ [styleKey]

/-- The keys of a node, each with what is written under it. -/
def slots (family : NodeFamily) (parts : Parts family Json) : List (String × Option Json) :=
  let styles := family.writtenStyles parts.kind parts.styles
  (typeKey, some (.string (family.tag parts.kind))) ::
    (Record.slots family.shared parts.shared ++ Record.slots (family.own parts.kind) parts.own) ++
    [(styleKey, if styles.isEmpty then none else some (Style.encodeBag styles))]

theorem typeKey_mem_slots (parts : Parts family Json) :
    (typeKey, some (.string (family.tag parts.kind))) ∈ family.slots parts :=
  List.mem_cons_self

theorem styleKey_mem_slots (parts : Parts family Json) :
    (styleKey, if (family.writtenStyles parts.kind parts.styles).isEmpty then none
      else some (Style.encodeBag (family.writtenStyles parts.kind parts.styles))) ∈
        family.slots parts :=
  List.mem_append_right _ (List.mem_singleton.2 rfl)

theorem shared_mem_slots {parts : Parts family Json} {slot : String × Option Json}
    (h : slot ∈ Record.slots family.shared parts.shared) : slot ∈ family.slots parts :=
  List.mem_append_left _ (List.mem_cons_of_mem _ (List.mem_append_left _ h))

theorem own_mem_slots {parts : Parts family Json} {slot : String × Option Json}
    (h : slot ∈ Record.slots (family.own parts.kind) parts.own) : slot ∈ family.slots parts :=
  List.mem_append_left _ (List.mem_cons_of_mem _ (List.mem_append_right _ h))

theorem map_fst_slots (parts : Parts family Json) :
    (family.slots parts).map Prod.fst = family.keys parts.kind := by
  simp only [slots, keys, List.map_append, List.map_cons, List.map_nil, Record.map_fst_slots]

theorem encode_eq_written (parts : Parts family Json) :
    family.encode parts = .object (Entries.written (family.slots parts)) := by
  rw [encode, slots, Record.encode_eq_written, Record.encode_eq_written]
  simp only [Entries.written_append, Entries.written_cons_some, List.cons_append]
  split <;> rfl

/-- What makes a persisted form one that can be read back. -/
structure Lawful (family : NodeFamily) : Prop where
  /-- The tag of a kind resolves to the kind. -/
  resolve_tag : ∀ kind, family.registry.resolve? (family.tag kind) = some kind
  /-- No two keys of a node are equal up to case. -/
  nodup_keys : ∀ kind, ((family.keys kind).map foldCase).Nodup
  wellFormed_shared : ∀ field ∈ family.shared, field.2.WellFormed = true
  wellFormed_own : ∀ kind, ∀ field ∈ family.own kind, field.2.WellFormed = true
  unset_shared : ∀ ν, Record.IsUnset family.shared (family.initialShared ν)
  unset_own : ∀ ν kind, Record.IsUnset (family.own kind) (family.initialOwn ν kind)
  distinct_writtenStyles : ∀ kind styles, Style.Distinct (family.writtenStyles kind styles)
  /-- What is written for the styles that were written is the same again. -/
  writtenStyles_writtenStyles : ∀ kind styles,
    family.writtenStyles kind (family.writtenStyles kind styles) = family.writtenStyles kind styles

/-- The entries as they are read back. -/
def readBack (node : Entries (Reading μ) → Except Fault (Option μ)) (parts : Parts family Json) :
    Entries (Reading μ) :=
  Reading.ofEntries node (Entries.written (family.slots parts))

/-- A node whose nodes are replaced by equal ones differs from what it was at most in its styles. -/
theorem agree_map {sameStyles : Parts family ν → Parts family μ → Bool} (same : ν → μ → Bool)
    (f : μ → ν) {parts : Parts family μ} (styles : List Style)
    (h : ∀ child ∈ parts.nodes, same (f child) child = true) :
    family.agree sameStyles same (Parts.map f { parts with styles }) parts =
      sameStyles (Parts.map f { parts with styles }) parts := by
  have hshared : Record.agree same family.shared (Record.map f family.shared parts.shared)
      parts.shared = true :=
    Record.agree_map fun child hchild => h child (List.mem_append_left _ hchild)
  have hown : Record.agree same (family.own parts.kind)
      (Record.map f (family.own parts.kind) parts.own) parts.own = true :=
    Record.agree_map fun child hchild => h child (List.mem_append_right _ hchild)
  have hkind : parts.kind = (Parts.map f { parts with styles }).kind := rfl
  rw [agree, dif_pos hkind]
  simp only [Parts.map, hshared, hown, Bool.true_and]

namespace Lawful

variable (law : family.Lawful)
include law

/-- A node with the styles that are written for it is written like the node itself. -/
theorem encode_settled (parts : Parts family Json) :
    family.encode parts.settled = family.encode parts := by
  have hslots : family.slots parts.settled = family.slots parts := by
    rw [slots, slots, Parts.settled, law.writtenStyles_writtenStyles]
  rw [encode_eq_written, encode_eq_written, hslots]

/-- **Every key is answered by what was written under it**, or by nothing. -/
theorem find?_readBack (node : Entries (Reading μ) → Except Fault (Option μ))
    (parts : Parts family Json) {key : String} {value : Option Json}
    (hmem : (key, value) ∈ family.slots parts) :
    (readBack node parts).find? key = value.map (Reading.of node) := by
  rw [readBack, Reading.ofEntries_eq_map, ← Entries.written_map (Reading.of node)]
  apply Entries.find?_written
  · have hkeys := law.nodup_keys parts.kind
    rw [← map_fst_slots, List.map_map] at hkeys
    rw [List.map_map]
    exact hkeys
  · exact List.mem_map.2 ⟨_, hmem, rfl⟩

theorem typeTag?_readBack (node : Entries (Reading μ) → Except Fault (Option μ))
    (parts : Parts family Json) :
    typeTag? (readBack node parts) = some (family.tag parts.kind) := by
  rw [typeTag?, law.find?_readBack node parts (typeKey_mem_slots parts), Option.map_some,
    Option.bind_some, Reading.value_of, Json.string?]

/-- The styles come back as they were written. -/
theorem loadStyles_readBack (owner : String) (node : Entries (Reading μ) → Except Fault (Option μ))
    (parts : Parts family Json) :
    loadStyles owner (readBack node parts) [] =
      .ok (family.writtenStyles parts.kind parts.styles) := by
  rw [loadStyles, law.find?_readBack node parts (styleKey_mem_slots parts)]
  cases hstyles : family.writtenStyles parts.kind parts.styles with
  | nil => rfl
  | cons style styles =>
    have hdistinct := law.distinct_writtenStyles parts.kind parts.styles
    rw [hstyles] at hdistinct
    simp only [List.isEmpty_cons, Bool.false_eq_true, if_false, Option.map_some, Style.encodeBag,
      Reading.of]
    exact Style.decodeBag_map owner hdistinct

/-- **A node is read back**, if every node below it is: with the styles that were written for it
and the nodes that came back. -/
theorem read_readBack {node : Entries (Reading μ) → Except Fault (Option μ)} {write : ν → Json}
    {g : ν → μ} {parts : Parts family ν}
    (hnodes : ∀ child ∈ parts.nodes, (Reading.of node (write child)).node = .ok (some (g child))) :
    family.read (readBack node (parts.map write)) = .ok (some (parts.settled.map g)) := by
  let owner := family.typeName parts.kind
  have hkind := law.typeTag?_readBack node (parts.map write)
  have hstyles := law.loadStyles_readBack owner node (parts.map write)
  have hshared : Record.load owner (readBack node (parts.map write)) family.shared
      (family.initialShared μ) = .ok (Record.map g family.shared parts.shared) := by
    refine Record.load_slots law.wellFormed_shared owner node write (fun child h => ?_)
      (fun slot h => ?_) (law.unset_shared μ)
    · exact hnodes child (List.mem_append_left _ h)
    · exact law.find?_readBack node _ (shared_mem_slots h)
  have hown : Record.load owner (readBack node (parts.map write)) (family.own parts.kind)
      (family.initialOwn μ parts.kind) = .ok (Record.map g (family.own parts.kind) parts.own) := by
    refine Record.load_slots (law.wellFormed_own parts.kind) owner node write (fun child h => ?_)
      (fun slot h => ?_) (law.unset_own μ parts.kind)
    · exact hnodes child (List.mem_append_right _ h)
    · exact law.find?_readBack node _ (own_mem_slots h)
  have hload : family.load (family.initial μ parts.kind) (readBack node (parts.map write)) =
      .ok (parts.settled.map g) := by
    simp only [load, initial]
    rw [hstyles, hshared, hown]
    rfl
  rw [read, hkind, Option.bind_some, law.resolve_tag]
  exact congrArg (some <$> ·) hload

end Lawful

end NodeFamily

end Bindery
