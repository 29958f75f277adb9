import Bindery.Binding.Document
import Bindery.Proofs.Node.Insertion

/-!
# Loading lays an object over a node

An object may be loaded over a node that is there already.  What the object brings for an attribute
is a new value, or nothing if the attribute has no entry or its entry is passed over.  Which it is
does not depend on the node, and neither does a fault: all that an object brings to a node of a kind
is an *overlay* (`NodeFamily.overlay`), and loading is to make the overlay and to lay it over the
node (`NodeFamily.load_eq_overlaid`).

An attribute is replaced or kept, never merged.  So an overlay that is laid over a node twice does
no more than the first time, and overlays that have no attribute in common can be laid over a node
in either order.  This is what makes loading an overlay for both families (`load_overlays`).
-/

namespace Bindery

variable {ν : Type}

/-! ## One attribute -/

/-- What a reading brings for an attribute: a new value, nothing, or a fault. -/
def AttributeType.offer (owner name : String) :
    (type : AttributeType) → Reading ν → Except Fault (Option (type.Value ν))
  | scalar s, reading => match s.decode reading.value with
    | .ok value => .ok (some value)
    | .error reason => .error (.wrongAttribute owner name s.typeName reason)
  | node, reading => Option.map some <$> reading.node
  | nodes, reading => match reading.items with
    | some items => some <$> nodesOf items
    | none => .ok none

/-- What the entries of an object bring for an attribute. -/
def AttributeType.offerFrom (owner : String) (entries : Entries (Reading ν)) (name : String)
    (type : AttributeType) : Except Fault (Option (type.Value ν)) :=
  match entries.find? name with
  | some reading => type.offer owner name reading
  | none => .ok none

/-- An attribute keeps its value if it is brought nothing. -/
theorem AttributeType.load_eq_offer (owner name : String) (type : AttributeType)
    (old : type.Value ν) (reading : Reading ν) :
    type.load owner name old reading = (·.getD old) <$> type.offer owner name reading := by
  cases type with
  | scalar s =>
    rw [load, offer]
    cases s.decode reading.value <;> rfl
  | node =>
    rw [load, offer]
    rcases reading.node with fault | _ | found <;> rfl
  | nodes =>
    rw [load, offer]
    cases reading.items with
    | none => rfl
    | some items => cases h : nodesOf items <;> simp only [h] <;> rfl

/-! ## Records -/

/-- New values for some of the attributes of a schema. -/
@[reducible] def Overlay (ν : Type) : Schema → Type
  | [] => Unit
  | (_, type) :: schema => Option (type.Value ν) × Overlay ν schema

namespace Overlay

/-- The record with the new values in place of the old ones. -/
def onto : (schema : Schema) → Overlay ν schema → Record ν schema → Record ν schema
  | [], _, _ => ()
  | _ :: schema, (new, overlay), (old, record) => (new.getD old, onto schema overlay record)

/-- Two overlays without an attribute in common. -/
def Apart : (schema : Schema) → Overlay ν schema → Overlay ν schema → Prop
  | [], _, _ => True
  | _ :: schema, (new, overlay), (new', overlay') =>
    (new = none ∨ new' = none) ∧ Apart schema overlay overlay'

variable {schema : Schema}

theorem onto_onto_self (overlay : Overlay ν schema) (record : Record ν schema) :
    onto schema overlay (onto schema overlay record) = onto schema overlay record := by
  induction schema with
  | nil => rfl
  | cons field schema ih =>
    obtain ⟨new, overlay⟩ := overlay
    obtain ⟨old, record⟩ := record
    have hvalue : new.getD (new.getD old) = new.getD old := by cases new <;> rfl
    exact Prod.ext hvalue (ih overlay record)

theorem onto_comm {overlay overlay' : Overlay ν schema} (h : Apart schema overlay overlay')
    (record : Record ν schema) :
    onto schema overlay' (onto schema overlay record) =
      onto schema overlay (onto schema overlay' record) := by
  induction schema with
  | nil => rfl
  | cons field schema ih =>
    obtain ⟨new, overlay⟩ := overlay
    obtain ⟨new', overlay'⟩ := overlay'
    obtain ⟨old, record⟩ := record
    obtain ⟨hvalue, hrest⟩ := h
    have hvalues : new'.getD (new.getD old) = new.getD (new'.getD old) := by
      rcases hvalue with rfl | rfl <;> rfl
    exact Prod.ext hvalues (ih hrest record)

end Overlay

namespace Record

/-- What the entries of an object bring for the attributes of a schema, the first fault being the
one reported. -/
def overlay (owner : String) (entries : Entries (Reading ν)) :
    (schema : Schema) → Except Fault (Overlay ν schema)
  | [] => .ok ()
  | (name, type) :: schema => do
    let new ← type.offerFrom owner entries name
    let overlay ← overlay owner entries schema
    .ok (new, overlay)

theorem overlay_cons_eq_ok {owner name : String} {entries : Entries (Reading ν)}
    {type : AttributeType} {schema : Schema} {new : Option (type.Value ν)}
    {rest : Overlay ν schema} :
    overlay owner entries ((name, type) :: schema) = .ok (new, rest) ↔
      type.offerFrom owner entries name = .ok new ∧ overlay owner entries schema = .ok rest := by
  rw [overlay]
  cases type.offerFrom owner entries name with
  | error fault => simp [bind, Except.bind]
  | ok new' =>
    cases overlay owner entries schema <;> simp [bind, Except.bind]

/-- **Loading a record** is laying over it what the entries bring. -/
theorem load_eq_onto (owner : String) (entries : Entries (Reading ν)) {schema : Schema}
    (record : Record ν schema) :
    load owner entries schema record =
      (Overlay.onto schema · record) <$> overlay owner entries schema := by
  induction schema with
  | nil => rfl
  | cons field schema ih =>
    obtain ⟨name, type⟩ := field
    obtain ⟨old, record⟩ := record
    rw [load, overlay, AttributeType.offerFrom, ih]
    cases entries.find? name with
    | none => cases overlay owner entries schema <;> rfl
    | some reading =>
      dsimp only
      rw [type.load_eq_offer]
      cases type.offer owner name reading with
      | error fault => rfl
      | ok new => cases overlay owner entries schema <;> rfl

end Record

/-! ## Nodes -/

/-- What an object brings to a node of a kind. -/
structure NodeOverlay (family : NodeFamily) (kind : NodeKind) (ν : Type) where
  styles : Option (List Style)
  shared : Overlay ν family.shared
  own : Overlay ν (family.own kind)

/-- Two overlays without an attribute in common, the styles counting as one. -/
structure NodeOverlay.Apart {family : NodeFamily} {kind : NodeKind}
    (overlay overlay' : NodeOverlay family kind ν) : Prop where
  styles : overlay.styles = none ∨ overlay'.styles = none
  shared : Overlay.Apart family.shared overlay.shared overlay'.shared
  own : Overlay.Apart (family.own kind) overlay.own overlay'.own

/-- A node of a kind that nothing has been said about, with an overlay laid over it. -/
def NodeOverlay.made {family : NodeFamily} {kind : NodeKind} (overlay : NodeOverlay family kind ν) :
    Parts family ν where
  kind := kind
  styles := overlay.styles.getD []
  shared := overlay.shared.onto family.shared (family.initialShared ν)
  own := overlay.own.onto (family.own kind) (family.initialOwn ν kind)

namespace Parts

variable {family : NodeFamily}

/-- The node with an overlay laid over it. -/
def overlaid (parts : Parts family ν) (overlay : NodeOverlay family parts.kind ν) :
    Parts family ν where
  kind := parts.kind
  styles := overlay.styles.getD parts.styles
  shared := overlay.shared.onto family.shared parts.shared
  own := overlay.own.onto (family.own parts.kind) parts.own

theorem overlaid_overlaid_self (parts : Parts family ν)
    (overlay : NodeOverlay family parts.kind ν) :
    (parts.overlaid overlay).overlaid overlay = parts.overlaid overlay := by
  have hstyles : overlay.styles.getD (overlay.styles.getD parts.styles) =
      overlay.styles.getD parts.styles := by
    cases overlay.styles <;> rfl
  simp only [overlaid, hstyles, Overlay.onto_onto_self]

/-- Overlays that have nothing in common are laid over a node in either order. -/
theorem overlaid_comm (parts : Parts family ν) {overlay overlay' : NodeOverlay family parts.kind ν}
    (h : overlay.Apart overlay') :
    (parts.overlaid overlay).overlaid overlay' = (parts.overlaid overlay').overlaid overlay := by
  have hstyles : overlay'.styles.getD (overlay.styles.getD parts.styles) =
      overlay.styles.getD (overlay'.styles.getD parts.styles) := by
    rcases h.styles with hnone | hnone <;> rw [hnone] <;> rfl
  simp only [overlaid, hstyles, Overlay.onto_comm h.shared, Overlay.onto_comm h.own]

end Parts

namespace NodeFamily

variable {family : NodeFamily}

/-- The styles that a value brings as a bag, if it is one. -/
def offerBag (owner : String) : Json → Except Fault (Option (List Style))
  | .object bag => some <$> Style.decodeBag owner bag
  | _ => .ok none

/-- The styles that an object brings. -/
def offerStyles (owner : String) (entries : Entries (Reading ν)) :
    Except Fault (Option (List Style)) :=
  match entries.find? styleKey with
  | some reading => offerBag owner reading.value
  | none => .ok none

theorem loadStyles_eq_offerStyles (owner : String) (entries : Entries (Reading ν))
    (styles : List Style) :
    loadStyles owner entries styles = (·.getD styles) <$> offerStyles owner entries := by
  rw [loadStyles, offerStyles]
  cases entries.find? styleKey with
  | none => rfl
  | some reading =>
    obtain ⟨value, node, items⟩ := reading
    cases value with
    | object bag => cases h : Style.decodeBag owner bag <;> simp only [offerBag, h] <;> rfl
    | null | bool | number | string | array => rfl

/-- All that an object brings to a node of a kind: the styles first, then the attributes in the
order in which they are written. -/
def overlay (family : NodeFamily) (kind : NodeKind) (entries : Entries (Reading ν)) :
    Except Fault (NodeOverlay family kind ν) := do
  let owner := family.typeName kind
  let styles ← offerStyles owner entries
  let shared ← Record.overlay owner entries family.shared
  let own ← Record.overlay owner entries (family.own kind)
  .ok ⟨styles, shared, own⟩

/-- **Loading a node** is laying over it what the object brings. -/
theorem load_eq_overlaid (parts : Parts family ν) (entries : Entries (Reading ν)) :
    family.load parts entries = parts.overlaid <$> family.overlay parts.kind entries := by
  rw [load, overlay, loadStyles_eq_offerStyles, Record.load_eq_onto, Record.load_eq_onto]
  cases offerStyles (family.typeName parts.kind) entries with
  | error fault => rfl
  | ok styles =>
    cases Record.overlay (family.typeName parts.kind) entries family.shared with
    | error fault => rfl
    | ok shared =>
      cases Record.overlay (family.typeName parts.kind) entries (family.own parts.kind) <;> rfl

theorem overlay_eq_ok {kind : NodeKind} {entries : Entries (Reading ν)}
    {overlay : NodeOverlay family kind ν} :
    family.overlay kind entries = .ok overlay ↔
      offerStyles (family.typeName kind) entries = .ok overlay.styles ∧
      Record.overlay (family.typeName kind) entries family.shared = .ok overlay.shared ∧
      Record.overlay (family.typeName kind) entries (family.own kind) = .ok overlay.own := by
  obtain ⟨styles, shared, own⟩ := overlay
  rw [NodeFamily.overlay]
  cases offerStyles (family.typeName kind) entries with
  | error fault => simp [bind, Except.bind]
  | ok styles' =>
    cases Record.overlay (family.typeName kind) entries family.shared with
    | error fault => simp [bind, Except.bind]
    | ok shared' =>
      cases Record.overlay (family.typeName kind) entries (family.own kind) <;>
        simp [bind, Except.bind]

theorem load_eq_error_iff {parts : Parts family ν} {entries : Entries (Reading ν)} {fault : Fault} :
    family.load parts entries = .error fault ↔
      family.overlay parts.kind entries = .error fault := by
  rw [load_eq_overlaid]
  cases family.overlay parts.kind entries <;> simp [Functor.map, Except.map]

/-! ## What an object touches -/

/-- Whether a value says something for an attribute of a type.  What is no node is passed over, and
so is a value for a list of nodes that is no array. -/
def saysSomething (family : NodeFamily) : AttributeType → Json → Bool
  | .scalar _, _ => true
  | .node, value => (family.kind? value).isSome
  | .nodes, value => value.array?.isSome

/-- Whether an object has something to say for an attribute. -/
def touches (family : NodeFamily) (entries : Entries Json) (field : String × AttributeType) :
    Bool :=
  (entries.find? field.1).any (family.saysSomething field.2)

/-- The names of the attributes of a kind of node for which an object has something to say.  The
styles count as one attribute. -/
def touched (family : NodeFamily) (kind : NodeKind) (entries : Entries Json) : List String :=
  ((family.fields kind).filter (family.touches entries)).map Prod.fst ++
    (((entries.find? styleKey).bind Json.object?).map fun _ => styleKey).toList

variable {read : Entries (Reading ν) → Except Fault (Option ν)} {make : Parts family ν → ν}
  (hread : ∀ entries, read entries = Option.map make <$> family.read entries)

include hread in
/-- A recognised object is the node that is made of what it brings. -/
theorem node_object {entries : Entries Json} {kind : NodeKind}
    (hkind : family.kind? (.object entries) = some kind) :
    (Reading.of read (.object entries)).node =
      (fun overlay => some (make overlay.made)) <$>
        family.overlay kind (Reading.ofEntries read entries) := by
  have htag : (typeTag? (Reading.ofEntries read entries)).bind family.registry.resolve? =
      some kind := by
    rw [typeTag?_ofEntries]
    exact hkind
  rw [Reading.of, hread, NodeFamily.read, htag]
  dsimp only
  rw [load_eq_overlaid, initial]
  cases family.overlay kind (Reading.ofEntries read entries) <;> rfl

include hread in
/-- What an object does not touch it brings nothing for. -/
theorem offerFrom_of_touches_eq_false {entries : Entries Json} {field : String × AttributeType}
    (h : family.touches entries field = false) (owner : String) :
    field.2.offerFrom owner (Reading.ofEntries read entries) field.1 = .ok none := by
  obtain ⟨name, type⟩ := field
  rw [touches] at h
  rw [AttributeType.offerFrom, find?_ofEntries]
  cases hfound : entries.find? name with
  | none => rfl
  | some value =>
    rw [hfound, Option.any_some] at h
    rw [Option.map_some]
    cases type with
    | scalar s => exact absurd h.symm Bool.false_ne_true
    | node =>
      have hnone : family.kind? value = none :=
        Option.isNone_iff_eq_none.1 (by simpa [saysSomething] using h)
      simp only [AttributeType.offer, node_of_kind?_eq_none hread hnone]
      rfl
    | nodes =>
      cases value with
      | array items => exact absurd h.symm Bool.false_ne_true
      | null | bool | number | string | object => simp only [Reading.of, AttributeType.offer]

include hread in
theorem apart_of_touches {entries entries' : Entries Json} {owner : String} {schema : Schema}
    (h : ∀ field ∈ schema, family.touches entries field = false ∨
      family.touches entries' field = false)
    {overlay overlay' : Overlay ν schema}
    (hoverlay : Record.overlay owner (Reading.ofEntries read entries) schema = .ok overlay)
    (hoverlay' : Record.overlay owner (Reading.ofEntries read entries') schema = .ok overlay') :
    Overlay.Apart schema overlay overlay' := by
  induction schema with
  | nil => trivial
  | cons field schema ih =>
    obtain ⟨new, overlay⟩ := overlay
    obtain ⟨new', overlay'⟩ := overlay'
    obtain ⟨hnew, hrest⟩ := Record.overlay_cons_eq_ok.1 hoverlay
    obtain ⟨hnew', hrest'⟩ := Record.overlay_cons_eq_ok.1 hoverlay'
    rw [List.forall_mem_cons] at h
    refine ⟨h.1.imp (fun hfree => ?_) (fun hfree => ?_), ih h.2 hrest hrest'⟩
    · exact Except.ok.inj (hnew.symm.trans (offerFrom_of_touches_eq_false hread hfree owner))
    · exact Except.ok.inj (hnew'.symm.trans (offerFrom_of_touches_eq_false hread hfree owner))

/-- An object that touches no styles brings none. -/
theorem offerStyles_of_notMem_touched (read : Entries (Reading ν) → Except Fault (Option ν))
    {entries : Entries Json} {kind : NodeKind} (h : styleKey ∉ family.touched kind entries)
    (owner : String) : offerStyles owner (Reading.ofEntries read entries) = .ok none := by
  rw [touched, List.mem_append, not_or] at h
  rw [offerStyles, find?_ofEntries]
  cases hfound : entries.find? styleKey with
  | none => rfl
  | some value =>
    rw [hfound] at h
    simp only [Option.map_some, Reading.value_of]
    cases value with
    | object bag => exact absurd (List.mem_singleton_self _) h.2
    | null | bool | number | string | array => rfl

include hread in
/-- **Objects that touch different attributes** bring different things. -/
theorem apart_of_disjoint {entries entries' : Entries Json} {kind : NodeKind}
    (h : (family.touched kind entries).Disjoint (family.touched kind entries'))
    {overlay overlay' : NodeOverlay family kind ν}
    (hoverlay : family.overlay kind (Reading.ofEntries read entries) = .ok overlay)
    (hoverlay' : family.overlay kind (Reading.ofEntries read entries') = .ok overlay') :
    overlay.Apart overlay' := by
  have htouches : ∀ field ∈ family.fields kind, family.touches entries field = false ∨
      family.touches entries' field = false := by
    intro field hfield
    have hmem {entries : Entries Json} (htouch : family.touches entries field = true) :
        field.1 ∈ family.touched kind entries :=
      List.mem_append_left _ (List.mem_map_of_mem (List.mem_filter.2 ⟨hfield, htouch⟩))
    by_contra hboth
    rw [not_or, Bool.not_eq_false, Bool.not_eq_false] at hboth
    exact h (hmem hboth.1) (hmem hboth.2)
  obtain ⟨hstyles, hshared, hown⟩ := overlay_eq_ok.1 hoverlay
  obtain ⟨hstyles', hshared', hown'⟩ := overlay_eq_ok.1 hoverlay'
  constructor
  · by_cases hmem : styleKey ∈ family.touched kind entries
    · have hfree := offerStyles_of_notMem_touched read (h hmem) (family.typeName kind)
      exact Or.inr (Except.ok.inj (hstyles'.symm.trans hfree))
    · have hfree := offerStyles_of_notMem_touched read hmem (family.typeName kind)
      exact Or.inl (Except.ok.inj (hstyles.symm.trans hfree))
  · exact apart_of_touches hread
      (fun field hfield => htouches field (List.mem_append_left _ hfield)) hshared hshared'
  · exact apart_of_touches hread
      (fun field hfield => htouches field (List.mem_append_right _ hfield)) hown hown'

/-! ## Loading is an overlay -/

/-- **Loading is an overlay**, where `kind` and `load` are those of the nodes of a family. -/
structure LoadsAsOverlay (family : NodeFamily) (kind : ν → NodeKind)
    (load : ν → Entries Json → Except Fault ν) : Prop where
  /-- Whether an object can be loaded, and with which fault it is refused if not, is the same for
  all nodes of a kind. -/
  error_iff : ∀ {node node' : ν}, kind node = kind node' → ∀ entries fault,
    load node entries = .error fault ↔ load node' entries = .error fault
  /-- Once an object is loaded, loading it again changes nothing. -/
  load_again : ∀ {node loaded : ν} {entries : Entries Json},
    load node entries = .ok loaded → load loaded entries = .ok loaded
  /-- Objects that touch different attributes can be loaded in either order. -/
  load_comm : ∀ {node loaded loaded' : ν} {entries entries' : Entries Json},
    load node entries = .ok loaded → load node entries' = .ok loaded' →
    (family.touched (kind node) entries).Disjoint (family.touched (kind node) entries') →
    ∃ both, load loaded entries' = .ok both ∧ load loaded' entries = .ok both

include hread in
/-- Loading is an overlay for every family whose nodes are loaded through their parts. -/
theorem loadsAsOverlay {kind : ν → NodeKind} {load : ν → Entries Json → Except Fault ν}
    {parts : ν → Parts family ν} (hkind : ∀ node, (parts node).kind = kind node)
    (hparts : ∀ made, parts (make made) = made)
    (hload : ∀ node entries, load node entries =
      make <$> family.load (parts node) (Reading.ofEntries read entries)) :
    family.LoadsAsOverlay kind load := by
  have hok {node loaded : ν} {entries : Entries Json} : load node entries = .ok loaded ↔
      ∃ overlay, family.overlay (parts node).kind (Reading.ofEntries read entries) = .ok overlay ∧
        make ((parts node).overlaid overlay) = loaded := by
    rw [hload, load_eq_overlaid]
    cases family.overlay (parts node).kind (Reading.ofEntries read entries) <;>
      simp [Functor.map, Except.map]
  have herror {node : ν} {entries : Entries Json} {fault : Fault} :
      load node entries = .error fault ↔
        family.overlay (parts node).kind (Reading.ofEntries read entries) = .error fault := by
    rw [hload, ← load_eq_error_iff]
    cases family.load (parts node) (Reading.ofEntries read entries) <;>
      simp [Functor.map, Except.map]
  -- what is laid over a node that has just been loaded
  have hover {made : Parts family ν} {entries : Entries Json}
      {overlay : NodeOverlay family made.kind ν}
      (h : family.overlay made.kind (Reading.ofEntries read entries) = .ok overlay) :
      load (make made) entries = .ok (make (made.overlaid overlay)) := by
    rw [hload, hparts, load_eq_overlaid, h]
    rfl
  constructor
  · intro node node' hsame entries fault
    rw [← hkind, ← hkind] at hsame
    rw [herror, herror, hsame]
  · intro node loaded entries h
    obtain ⟨overlay, hoverlay, rfl⟩ := hok.1 h
    have hagain := @hover ((parts node).overlaid overlay) entries overlay hoverlay
    rwa [Parts.overlaid_overlaid_self] at hagain
  · intro node loaded loaded' entries entries' h h' hdisjoint
    obtain ⟨overlay, hoverlay, rfl⟩ := hok.1 h
    obtain ⟨overlay', hoverlay', rfl⟩ := hok.1 h'
    rw [← hkind] at hdisjoint
    have hapart := apart_of_disjoint hread hdisjoint hoverlay hoverlay'
    have hfirst := @hover ((parts node).overlaid overlay) entries' overlay' hoverlay'
    have hsecond := @hover ((parts node).overlaid overlay') entries overlay hoverlay
    rw [← Parts.overlaid_comm _ hapart] at hsecond
    exact ⟨_, hfirst, hsecond⟩

end NodeFamily

/-! ## Both families -/

namespace Template

/-- The parts of a template. -/
def toParts : Template → Parts family Template
  | node head kind => parts head kind

theorem toParts_ofParts (made : Parts family Template) : (ofParts made).toParts = made := by
  obtain ⟨kind, styles, shared, own⟩ := made
  cases kind <;> rfl

end Template

namespace Doc

/-- The parts of a document. -/
def toParts : Doc → Parts family Doc
  | node head kind => parts head kind

theorem toParts_ofParts (made : Parts family Doc) : (ofParts made).toParts = made := by
  obtain ⟨kind, styles, shared, own⟩ := made
  cases kind <;> rfl

end Doc

/-- **Loading an object over a node is to lay an overlay over it**, for templates and for
documents. -/
theorem load_overlays :
    Template.family.LoadsAsOverlay (fun template => template.kind.nodeKind) Template.load ∧
      Doc.family.LoadsAsOverlay Doc.nodeKind Doc.load := by
  constructor
  · refine NodeFamily.loadsAsOverlay (fun _ => rfl) (fun template => ?_)
      Template.toParts_ofParts fun template entries => ?_
    · cases template
      rfl
    · cases template
      rfl
  · refine NodeFamily.loadsAsOverlay (fun _ => rfl) (fun doc => ?_) Doc.toParts_ofParts
      fun doc entries => ?_
    · cases doc
      rfl
    · cases doc
      rfl

/-- A text and a style for a span, and no spans in it. -/
def newText : Entries Json :=
  [("Value", .string "y"), ("spans", .array []),
    ("$styles", .object [("width", .object [("value", .ofInt 1)])])]

/-- A script for a span.  What stands under the name of its spans is no array. -/
def newScript : Entries Json :=
  [("subscript", .bool true), ("Spans", .null)]

/-- A text that is none. -/
def noText : Entries Json :=
  [("value", .bool true)]

/-- A span is given a text, and a script, in either order. -/
theorem newText_loads_over_span :
    let span (text : String) : Doc := .ofKind (.span [] ⟨some text, none, none, none, none⟩)
    ∃ written raised both, (span "x").load newText = .ok written ∧
      (span "x").load newScript = .ok raised ∧ written.load newText = .ok written ∧
      written.load newScript = .ok both ∧ raised.load newText = .ok both ∧
      ∀ fault, (span "x").load noText = .error fault ↔ (span "y").load noText = .error fault := by
  intro span
  obtain ⟨written, hwritten⟩ : ∃ written, (span "x").load newText = .ok written := ⟨_, rfl⟩
  obtain ⟨raised, hraised⟩ : ∃ raised, (span "x").load newScript = .ok raised := ⟨_, rfl⟩
  have hdisjoint : (Doc.family.touched (span "x").nodeKind newText).Disjoint
      (Doc.family.touched (span "x").nodeKind newScript) :=
    List.disjoint_left.2 (by decide +kernel)
  obtain ⟨both, hboth, hboth'⟩ := load_overlays.2.load_comm hwritten hraised hdisjoint
  exact ⟨written, raised, both, hwritten, hraised, load_overlays.2.load_again hwritten, hboth,
    hboth', load_overlays.2.error_iff rfl noText⟩

end Bindery
