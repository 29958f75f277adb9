import Bindery.Proofs.Json.Keys
import Bindery.Proofs.Node.Overlay

/-!
# Which trees are rejected

A persisted tree is read from its root down.  What is read is an object that is recognised as a
node, and right below it (`NodeFamily.Below`) the values of its attributes that hold nodes.  A value
that is reached this way can be wrong in two ways of its own (`NodeFamily.Wrong`): an attribute with
a value of the wrong shape, and a style of a known kind with a payload that is none.

Reading reports the first fault that it meets.  So the fault of an object is the first one among its
styles and its attributes (`NodeFamily.errorOf?_overlay`), and it is either a wrong of the object
itself or the fault of a value right below.  A tree is therefore rejected exactly if something in it
is wrong, and with a wrong that is there (`ofJson_rejects_wrong`).  What reading passes over cannot
be at fault, because nothing is right below what is not recognised.
-/

namespace Bindery

variable {ν : Type}

/-! ## The first fault -/

section ErrorOf

variable {ε ε' α β : Type}

/-- The error of a result, if it is one. -/
def errorOf? : Except ε α → Option ε
  | .ok _ => none
  | .error error => some error

theorem errorOf?_eq_some {result : Except ε α} {error : ε} :
    errorOf? result = some error ↔ result = .error error := by
  cases result <;> simp [errorOf?]

theorem errorOf?_map (f : α → β) (result : Except ε α) :
    errorOf? (f <$> result) = errorOf? result := by
  cases result <;> rfl

theorem errorOf?_bind {result : Except ε α} {next : α → Except ε β} {rest : Option ε}
    (h : ∀ value, errorOf? (next value) = rest) :
    errorOf? (result >>= next) = (errorOf? result).or rest := by
  cases result with
  | error error => rfl
  | ok value => exact h value

end ErrorOf

/-! ## Objects and arrays -/

theorem Json.bind_object?_eq_some {value? : Option Json} {entries : Entries Json} :
    value?.bind Json.object? = some entries ↔ value? = some (.object entries) := by
  rcases value? with _ | value
  · simp
  · cases value <;> simp [Json.object?]

theorem Json.bind_array?_eq_some {value? : Option Json} {items : List Json} :
    value?.bind Json.array? = some items ↔ value? = some (.array items) := by
  rcases value? with _ | value
  · simp
  · cases value <;> simp [Json.array?]

/-! ## The first fault of a list -/

theorem errorOf?_nodesOf (items : List (Except Fault (Option ν))) :
    errorOf? (nodesOf items) = items.findSome? errorOf? := by
  induction items with
  | nil => rfl
  | cons item items ih =>
    rcases item with fault | _ | node
    · rfl
    · exact ih
    · rw [nodesOf, errorOf?_map]
      exact ih

namespace Style

/-- What is wrong with an entry of a bag. -/
def entryFault? (owner : String) (entry : String × Json) : Option Fault :=
  (Registry.styles.resolve? entry.1).bind fun kind =>
    (errorOf? (decode kind entry.2)).map
      (.wrongAttribute owner ("$styles." ++ entry.1) kind.typeName)

theorem errorOf?_decodeEntries (owner : String) (entries : Entries Json) :
    errorOf? (decodeEntries owner entries) = entries.findSome? (entryFault? owner) := by
  induction entries with
  | nil => rfl
  | cons entry entries ih =>
    obtain ⟨key, payload⟩ := entry
    rw [decodeEntries, List.findSome?_cons, entryFault?]
    cases Registry.styles.resolve? key with
    | none => exact ih
    | some kind =>
      cases hdecode : decode kind payload with
      | error reason => simp only [hdecode, Option.bind_some, errorOf?, Option.map_some]
      | ok style =>
        simp only [hdecode, Option.bind_some, errorOf?_map, ih]
        rfl

end Style

theorem Record.errorOf?_overlay (owner : String) (entries : Entries (Reading ν))
    (schema : Schema) :
    errorOf? (overlay owner entries schema) =
      schema.findSome? fun field => errorOf? (field.2.offerFrom owner entries field.1) := by
  induction schema with
  | nil => rfl
  | cons field schema ih =>
    obtain ⟨name, type⟩ := field
    have hrest (new : Option (type.Value ν)) :
        errorOf? (overlay owner entries schema >>= fun rest => .ok (new, rest)) =
          errorOf? (overlay owner entries schema) := by
      cases overlay owner entries schema <;> rfl
    rw [overlay, List.findSome?_cons, ← ih, errorOf?_bind hrest]
    cases errorOf? (type.offerFrom owner entries name) <;> rfl

namespace NodeFamily

variable {family : NodeFamily}

/-- **The fault of an object** is the first one among its styles and then its attributes. -/
theorem errorOf?_overlay (kind : NodeKind) (entries : Entries (Reading ν)) :
    errorOf? (family.overlay kind entries) =
      (errorOf? (offerStyles (family.typeName kind) entries)).or
        ((family.fields kind).findSome? fun field =>
          errorOf? (field.2.offerFrom (family.typeName kind) entries field.1)) := by
  rw [fields, List.findSome?_append, ← Record.errorOf?_overlay, ← Record.errorOf?_overlay, overlay]
  refine errorOf?_bind fun styles => errorOf?_bind fun shared => ?_
  cases Record.overlay (family.typeName kind) entries (family.own kind) <;> rfl

/-! ## What can be wrong -/

/-- A value right below a recognised object that is read as a node. -/
inductive Below (family : NodeFamily) : Json → Json → Prop
  /-- The value of an attribute that holds one node. -/
  | node {kind : NodeKind} {entries : Entries Json} {name : String} {value : Json}
      (hkind : family.kind? (.object entries) = some kind)
      (hfield : (name, .node) ∈ family.fields kind) (hfind : entries.find? name = some value) :
      Below family (.object entries) value
  /-- An item of the array of an attribute that holds nodes. -/
  | item {kind : NodeKind} {entries : Entries Json} {name : String} {items : List Json}
      {item : Json} (hkind : family.kind? (.object entries) = some kind)
      (hfield : (name, .nodes) ∈ family.fields kind)
      (hfind : entries.find? name = some (.array items)) (hitem : item ∈ items) :
      Below family (.object entries) item

/-- The values that are read as nodes when a value is: itself, and what is below it. -/
def Reaches (family : NodeFamily) : Json → Json → Prop :=
  Relation.ReflTransGen family.Below

/-- A recognised object is wrong by itself, and the fault says where. -/
inductive Wrong (family : NodeFamily) : Json → Fault → Prop
  /-- An attribute has a value that is not of its type. -/
  | scalar {kind : NodeKind} {entries : Entries Json} {name : String} {type : Scalar}
      {value : Json} {reason : Mismatch} (hkind : family.kind? (.object entries) = some kind)
      (hfield : (name, .scalar type) ∈ family.fields kind)
      (hfind : entries.find? name = some value) (hdecode : type.decode value = .error reason) :
      Wrong family (.object entries)
        (.wrongAttribute (family.typeName kind) name type.typeName reason)
  /-- A style of a known kind has a payload that is not one of its kind. -/
  | style {kind : NodeKind} {entries bag : Entries Json} {key : String} {style : StyleKind}
      {payload : Json} {reason : Mismatch} (hkind : family.kind? (.object entries) = some kind)
      (hfind : entries.find? styleKey = some (.object bag)) (hpayload : (key, payload) ∈ bag)
      (hstyle : Registry.styles.resolve? key = some style)
      (hdecode : Style.decode style payload = .error reason) :
      Wrong family (.object entries)
        (.wrongAttribute (family.typeName kind) ("$styles." ++ key) style.typeName reason)

/-- What is right below a value is smaller. -/
theorem sizeOf_lt_of_below {value child : Json} (h : family.Below value child) :
    sizeOf child < sizeOf value := by
  have hentry {entries : Entries Json} {name : String} {found : Json}
      (hfind : entries.find? name = some found) : sizeOf found < sizeOf (Json.object entries) := by
    obtain ⟨⟨key, value⟩, hmem, rfl⟩ := List.mem_map.1 (Entries.mem_of_find? hfind)
    have hlt := List.sizeOf_lt_of_mem hmem
    rw [Prod.mk.sizeOf_spec] at hlt
    rw [Json.object.sizeOf_spec]
    dsimp only
    omega
  cases h with
  | node _ _ hfind => exact hentry hfind
  | item _ _ hfind hitem =>
    have hlt := List.sizeOf_lt_of_mem hitem
    have harray := hentry hfind
    rw [Json.array.sizeOf_spec] at harray
    omega

/-- A tree is not endless. -/
theorem wellFounded_below (family : NodeFamily) :
    WellFounded fun child value => family.Below value child :=
  Subrelation.wf sizeOf_lt_of_below (measure sizeOf).wf

/-! ## One object -/

/-- The fault of a value as a node. -/
def nodeFault? (read : Entries (Reading ν) → Except Fault (Option ν)) (value : Json) :
    Option Fault :=
  errorOf? (Reading.of read value).node

variable {read : Entries (Reading ν) → Except Fault (Option ν)} {make : Parts family ν → ν}

/-- The fault of the styles of an object is that of an entry of its bag. -/
theorem errorOf?_offerStyles (owner : String) (entries : Entries Json) :
    errorOf? (offerStyles owner (Reading.ofEntries read entries)) =
      ((entries.find? styleKey).bind Json.object?).bind
        (List.findSome? (Style.entryFault? owner)) := by
  rw [offerStyles, find?_ofEntries]
  cases entries.find? styleKey with
  | none => rfl
  | some value =>
    simp only [Option.map_some, Reading.value_of, Option.bind_some]
    cases value with
    | object bag =>
      rw [offerBag, errorOf?_map, Style.decodeBag, errorOf?_map, Style.errorOf?_decodeEntries]
      rfl
    | null | bool | number | string | array => rfl

/-- The fault of an attribute is its own for a scalar, and else that of a value below. -/
def fieldFault? (read : Entries (Reading ν) → Except Fault (Option ν)) (owner : String)
    (entries : Entries Json) : String × AttributeType → Option Fault
  | (name, .scalar type) => (entries.find? name).bind fun value =>
    (errorOf? (type.decode value)).map (.wrongAttribute owner name type.typeName)
  | (name, .node) => (entries.find? name).bind (nodeFault? read)
  | (name, .nodes) =>
    ((entries.find? name).bind Json.array?).bind (List.findSome? (nodeFault? read))

theorem errorOf?_offerFrom (owner : String) (entries : Entries Json)
    (field : String × AttributeType) :
    errorOf? (field.2.offerFrom owner (Reading.ofEntries read entries) field.1) =
      fieldFault? read owner entries field := by
  obtain ⟨name, type⟩ := field
  rw [AttributeType.offerFrom, find?_ofEntries]
  cases hfind : entries.find? name with
  | none => cases type <;> simp only [fieldFault?, hfind] <;> rfl
  | some value =>
    cases type with
    | scalar type =>
      simp only [fieldFault?, hfind, Option.map_some, Option.bind_some, AttributeType.offer,
        Reading.value_of]
      cases type.decode value <;> rfl
    | node =>
      simp only [fieldFault?, hfind, Option.map_some, Option.bind_some, AttributeType.offer,
        errorOf?_map]
      rfl
    | nodes =>
      simp only [fieldFault?, hfind, Option.map_some, Option.bind_some, AttributeType.offer]
      cases value with
      | array items =>
        simp only [Reading.of, errorOf?_map, errorOf?_nodesOf, Reading.ofItems_eq_map,
          List.findSome?_map]
        rfl
      | null | bool | number | string | object => rfl

section

variable (hread : ∀ entries, read entries = Option.map make <$> family.read entries)

include hread

/-- **The fault of a recognised object**: the first one among the entries of its bag of styles, and
then among its attributes. -/
theorem nodeFault?_object {entries : Entries Json} {kind : NodeKind}
    (hkind : family.kind? (.object entries) = some kind) :
    nodeFault? read (.object entries) =
      (((entries.find? styleKey).bind Json.object?).bind
        (List.findSome? (Style.entryFault? (family.typeName kind)))).or
      ((family.fields kind).findSome? (fieldFault? read (family.typeName kind) entries)) := by
  rw [nodeFault?, node_object hread hkind, errorOf?_map, errorOf?_overlay]
  simp only [errorOf?_offerFrom, errorOf?_offerStyles]

/-- What is not recognised is not at fault. -/
theorem kind?_of_nodeFault? {value : Json} {fault : Fault}
    (h : nodeFault? read value = some fault) :
    ∃ entries kind, value = .object entries ∧ family.kind? value = some kind := by
  cases hkind : family.kind? value with
  | none =>
    rw [nodeFault?, node_of_kind?_eq_none hread hkind] at h
    exact absurd h (by simp [errorOf?])
  | some kind =>
    cases value with
    | object entries => exact ⟨entries, kind, rfl, rfl⟩
    | null | bool | number | string | array => exact absurd hkind (by simp [kind?])

/-- **A fault comes from the object itself or from right below.** -/
theorem wrong_or_below_of_nodeFault? {value : Json} {fault : Fault}
    (h : nodeFault? read value = some fault) :
    family.Wrong value fault ∨
      ∃ child, family.Below value child ∧ nodeFault? read child = some fault := by
  obtain ⟨entries, kind, rfl, hkind⟩ := kind?_of_nodeFault? hread h
  rw [nodeFault?_object hread hkind] at h
  rcases Option.or_eq_some_iff.1 h with hstyles | ⟨-, hfields⟩
  · obtain ⟨bag, hbag, hfirst⟩ := Option.bind_eq_some_iff.1 hstyles
    obtain ⟨⟨key, payload⟩, hpayload, hentry⟩ := List.exists_of_findSome?_eq_some hfirst
    obtain ⟨style, hstyle, hdecode⟩ := Option.bind_eq_some_iff.1 hentry
    obtain ⟨reason, hreason, rfl⟩ := Option.map_eq_some_iff.1 hdecode
    exact .inl (.style hkind (Json.bind_object?_eq_some.1 hbag) hpayload hstyle
      (errorOf?_eq_some.1 hreason))
  · obtain ⟨⟨name, type⟩, hfield, hfault⟩ := List.exists_of_findSome?_eq_some hfields
    cases type with
    | scalar type =>
      obtain ⟨value, hfind, hdecode⟩ := Option.bind_eq_some_iff.1 hfault
      obtain ⟨reason, hreason, rfl⟩ := Option.map_eq_some_iff.1 hdecode
      exact .inl (.scalar hkind hfield hfind (errorOf?_eq_some.1 hreason))
    | node =>
      obtain ⟨value, hfind, hchild⟩ := Option.bind_eq_some_iff.1 hfault
      exact .inr ⟨value, .node hkind hfield hfind, hchild⟩
    | nodes =>
      obtain ⟨items, harray, hfirst⟩ := Option.bind_eq_some_iff.1 hfault
      obtain ⟨item, hitem, hchild⟩ := List.exists_of_findSome?_eq_some hfirst
      exact .inr ⟨item, .item hkind hfield (Json.bind_array?_eq_some.1 harray) hitem, hchild⟩

/-- What is wrong by itself is at fault. -/
theorem isSome_nodeFault?_of_wrong {value : Json} {fault : Fault} (h : family.Wrong value fault) :
    (nodeFault? read value).isSome := by
  cases h with
  | scalar hkind hfield hfind hdecode =>
    rw [nodeFault?_object hread hkind, Option.isSome_or, Bool.or_eq_true]
    refine Or.inr (List.findSome?_isSome_iff.2 ⟨_, hfield, ?_⟩)
    simp only [fieldFault?, hfind, Option.bind_some, errorOf?_eq_some.2 hdecode, Option.map_some,
      Option.isSome_some]
  | style hkind hfind hpayload hstyle hdecode =>
    rw [nodeFault?_object hread hkind, Option.isSome_or, Bool.or_eq_true,
      Json.bind_object?_eq_some.2 hfind, Option.bind_some]
    refine Or.inl (List.findSome?_isSome_iff.2 ⟨_, hpayload, ?_⟩)
    simp only [Style.entryFault?, hstyle, Option.bind_some, errorOf?_eq_some.2 hdecode,
      Option.map_some, Option.isSome_some]

/-- What is at fault right below is reported further up. -/
theorem isSome_nodeFault?_of_below {value child : Json} (h : family.Below value child)
    (hchild : (nodeFault? read child).isSome) : (nodeFault? read value).isSome := by
  cases h with
  | node hkind hfield hfind =>
    rw [nodeFault?_object hread hkind, Option.isSome_or, Bool.or_eq_true]
    refine Or.inr (List.findSome?_isSome_iff.2 ⟨_, hfield, ?_⟩)
    rwa [fieldFault?, hfind, Option.bind_some]
  | item hkind hfield hfind hitem =>
    rw [nodeFault?_object hread hkind, Option.isSome_or, Bool.or_eq_true]
    refine Or.inr (List.findSome?_isSome_iff.2 ⟨_, hfield, ?_⟩)
    rw [fieldFault?, Json.bind_array?_eq_some.2 hfind, Option.bind_some]
    exact List.findSome?_isSome_iff.2 ⟨_, hitem, hchild⟩

/-! ## Trees -/

/-- The fault of a tree is a wrong of something in it. -/
theorem exists_wrong_of_nodeFault? {value : Json} {fault : Fault}
    (h : nodeFault? read value = some fault) :
    ∃ found, family.Reaches value found ∧ family.Wrong found fault := by
  induction value using family.wellFounded_below.induction with
  | h value ih =>
    rcases wrong_or_below_of_nodeFault? hread h with hwrong | ⟨child, hbelow, hchild⟩
    · exact ⟨value, .refl, hwrong⟩
    · obtain ⟨found, hreaches, hwrong⟩ := ih child hbelow hchild
      exact ⟨found, hreaches.head hbelow, hwrong⟩

theorem isSome_nodeFault?_of_reaches {value found : Json} {fault : Fault}
    (h : family.Reaches value found) (hwrong : family.Wrong found fault) :
    (nodeFault? read value).isSome := by
  induction h using Relation.ReflTransGen.head_induction_on with
  | refl => exact isSome_nodeFault?_of_wrong hread hwrong
  | head hbelow _ ih => exact isSome_nodeFault?_of_below hread hbelow ih

/-- A value is no node exactly if it is not recognised. -/
theorem node_eq_ok_none_iff {value : Json} :
    (Reading.of read value).node = .ok none ↔ family.kind? value = none := by
  refine ⟨fun h => ?_, node_of_kind?_eq_none hread⟩
  cases hkind : family.kind? value with
  | none => rfl
  | some kind =>
    cases value with
    | object entries =>
      rw [node_object hread hkind] at h
      cases hoverlay : family.overlay kind (Reading.ofEntries read entries) <;>
        simp [hoverlay, Functor.map, Except.map] at h
    | null | bool | number | string | array => exact absurd hkind (by simp [kind?])

end

/-- **What is rejected is what is wrong somewhere**, where `ofJson` is how the trees of a family are
read and `ofRoot` how their roots are. -/
structure RejectsWrong (family : NodeFamily) (ofJson : Json → Except Fault (Option ν))
    (ofRoot : Json → Except Fault ν) : Prop where
  /-- A tree is rejected exactly if something in it is wrong. -/
  rejected_iff : ∀ value, (∃ fault, ofJson value = .error fault) ↔
    ∃ found fault, family.Reaches value found ∧ family.Wrong found fault
  /-- The fault that is reported says of something in the tree how it is wrong. -/
  fault_wrong : ∀ {value : Json} {fault : Fault}, ofJson value = .error fault →
    ∃ found, family.Reaches value found ∧ family.Wrong found fault
  /-- An unknown tag is a fault at the root only. -/
  unknownType_iff : ∀ value tag, ofRoot value = .error (.unknownType tag) ↔
    family.kind? value = none ∧ tag = rootTag value

/-- Every family rejects what is wrong whose objects are read through their parts. -/
theorem rejectsWrong (hread : ∀ entries, read entries = Option.map make <$> family.read entries) :
    family.RejectsWrong (fun value => (Reading.of read value).node)
      fun value => requireRoot value (Reading.of read value).node where
  rejected_iff value := by
    constructor
    · rintro ⟨fault, hfault⟩
      obtain ⟨found, hreaches, hwrong⟩ :=
        exists_wrong_of_nodeFault? hread (errorOf?_eq_some.2 hfault)
      exact ⟨found, fault, hreaches, hwrong⟩
    · rintro ⟨found, fault, hreaches, hwrong⟩
      obtain ⟨reported, hreported⟩ :=
        Option.isSome_iff_exists.1 (isSome_nodeFault?_of_reaches hread hreaches hwrong)
      exact ⟨reported, errorOf?_eq_some.1 hreported⟩
  fault_wrong hfault := exists_wrong_of_nodeFault? hread (errorOf?_eq_some.2 hfault)
  unknownType_iff value tag := by
    rw [← node_eq_ok_none_iff hread]
    cases hnode : (Reading.of read value).node with
    | error fault =>
      obtain ⟨found, -, hwrong⟩ := exists_wrong_of_nodeFault? hread (errorOf?_eq_some.2 hnode)
      cases hwrong <;> simp [requireRoot]
    | ok node => cases node <;> simp [requireRoot, eq_comm]

end NodeFamily

/-- **A tree is rejected exactly if something in it is wrong**, in both families. -/
theorem ofJson_rejects_wrong :
    Template.family.RejectsWrong Template.ofJson Template.ofRoot ∧
      Doc.family.RejectsWrong Doc.ofJson Doc.ofRoot :=
  ⟨NodeFamily.rejectsWrong fun _ => rfl, NodeFamily.rejectsWrong fun _ => rfl⟩

/-- A span whose text is none. -/
def spoiledSpan : Json :=
  .object [("$type", .string "SPAN"), ("value", .bool true)]

/-- A paragraph with that span. -/
def spoiledParagraph : Json :=
  .object [("$type", .string "paragraph"), ("Spans", .array [.null, spoiledSpan])]

/-- The same under a tag that is not known. -/
def spoiledChart : Json :=
  .object [("$type", .string "chart"), ("Spans", .array [.null, spoiledSpan])]

theorem spoiledParagraph_rejected :
    (∃ fault, Template.ofJson spoiledParagraph = .error fault) ∧
      (∃ fault, Doc.ofJson spoiledParagraph = .error fault) ∧
      Doc.ofRoot spoiledChart = .error (.unknownType "chart") := by
  have hreaches {family : NodeFamily} (hkind : family.kind? spoiledParagraph = some .paragraph)
      (hfield : ("spans", .nodes) ∈ family.fields .paragraph) :
      family.Reaches spoiledParagraph spoiledSpan :=
    .single (.item hkind hfield rfl (.tail _ (.head _)))
  have hwrong {family : NodeFamily} (hkind : family.kind? spoiledSpan = some .span)
      (hfield : ("value", .scalar (.optional .text)) ∈ family.fields .span) :
      ∃ fault, family.Wrong spoiledSpan fault :=
    ⟨_, .scalar hkind hfield rfl rfl⟩
  obtain ⟨fault, htemplate⟩ := @hwrong Template.family rfl (by decide +kernel)
  obtain ⟨fault', hdoc⟩ := @hwrong Doc.family rfl (by decide +kernel)
  exact ⟨(ofJson_rejects_wrong.1.rejected_iff _).2
      ⟨_, fault, hreaches rfl (by decide +kernel), htemplate⟩,
    (ofJson_rejects_wrong.2.rejected_iff _).2 ⟨_, fault', hreaches rfl (by decide +kernel), hdoc⟩,
    (ofJson_rejects_wrong.2.unknownType_iff _ _).2 ⟨rfl, rfl⟩⟩

end Bindery
