import Bindery.Proofs.Doc.RoundTrip
import Bindery.Proofs.Template.RoundTrip
import Mathlib.Logic.Relation

/-!
# What reading passes over

A persisted tree may hold more than is asked for: entries that are no attributes, items of a list
that are no nodes, styles of kinds that are not known.  Whoever wrote them knew more than this
library does, and reading passes over them.

`NodeFamily.Inserts` is one such insertion, at any depth inside of nodes that are recognised.  It
does not change what a value is as a node, nor which nodes the items of an array are
(`NodeFamily.Lawful.readAlike_of_inserts`).  The proof goes along the way down to the insertion.  At
each node on the way one entry has changed or is new, and what the other names of the node find is
what they found before, because no two names of a node are equal up to case.

* `NodeFamily.kind?`: the kind of node that a value is recognised as.
* `ofJson_eq_of_inserts`: both families read a value with insertions like the value without them.
-/

namespace Bindery

/-! ## Items -/

/-- Items that are no nodes are passed over. -/
theorem nodesOf_append_none {ν : Type} (before after : List (Except Fault (Option ν))) :
    nodesOf (before ++ .ok none :: after) = nodesOf (before ++ after) := by
  induction before with
  | nil => rfl
  | cons item before ih =>
    rcases item with fault | _ | node
    · rfl
    · exact ih
    · exact congrArg ((node :: ·) <$> ·) ih

theorem Reading.ofItems_eq_map {ν : Type} (node : Entries (Reading ν) → Except Fault (Option ν))
    (items : List Json) : ofItems node items = items.map fun item => (of node item).node := by
  induction items with
  | nil => rfl
  | cons item items ih => rw [ofItems, ih, List.map_cons]

/-- Styles of unknown kinds are passed over. -/
theorem Style.decodeEntries_append_unknown {tag : String} (h : Registry.styles.resolve? tag = none)
    (owner : String) (before : Entries Json) (payload : Json) (after : Entries Json) :
    decodeEntries owner (before ++ (tag, payload) :: after) =
      decodeEntries owner (before ++ after) := by
  induction before with
  | nil => rw [List.nil_append, List.nil_append, decodeEntries, h]
  | cons entry before ih =>
    obtain ⟨key, value⟩ := entry
    simp only [List.cons_append, decodeEntries, ih]

/-! ## What an attribute takes from a reading -/

/-- What an attribute of a type becomes after a reading, whatever it was before. -/
def AttributeType.take {ν : Type} (type : AttributeType) (reading : Reading ν) :
    String → String → type.Value ν → Except Fault (type.Value ν) :=
  fun owner name old => type.load owner name old reading

/-- A record depends on entries by what its attributes take from them. -/
theorem Record.load_congr {ν : Type} (owner : String) {entries entries' : Entries (Reading ν)}
    {schema : Schema}
    (h : ∀ field ∈ schema, (entries'.find? field.1).map field.2.take =
      (entries.find? field.1).map field.2.take) (record : Record ν schema) :
    Record.load owner entries' schema record = Record.load owner entries schema record := by
  induction schema with
  | nil => rfl
  | cons field schema ih =>
    obtain ⟨name, type⟩ := field
    obtain ⟨old, record⟩ := record
    rw [List.forall_mem_cons] at h
    obtain ⟨hfirst, hrest⟩ := h
    rw [Record.load, Record.load, ih hrest]
    dsimp only at hfirst
    generalize entries.find? name = found at hfirst ⊢
    generalize entries'.find? name = found' at hfirst ⊢
    cases found with
    | none =>
      rw [Option.map_none, Option.map_eq_none_iff] at hfirst
      rw [hfirst]
    | some reading =>
      obtain ⟨reading', rfl, htake⟩ := Option.map_eq_some_iff.1 hfirst
      have hload : type.load owner name old reading' = type.load owner name old reading :=
        congrFun (congrFun (congrFun htake owner) name) old
      dsimp only
      rw [hload]

namespace NodeFamily

variable {family : NodeFamily} {ν : Type}

/-- The attributes of a kind of node, those that every node has included. -/
def fields (family : NodeFamily) (kind : NodeKind) : Schema :=
  family.shared ++ family.own kind

/-- The kind of node that a value is recognised as. -/
def kind? (family : NodeFamily) : Json → Option NodeKind
  | .object entries =>
    ((Entries.find? entries typeKey).bind Json.string?).bind family.registry.resolve?
  | _ => none

/-- **A node is read alike** from entries that have the same tag and the same styles, and from which
its attributes take the same. -/
theorem read_congr {entries entries' : Entries (Reading ν)} {kind : NodeKind}
    (hkind : (typeTag? entries).bind family.registry.resolve? = some kind)
    (htag : typeTag? entries' = typeTag? entries)
    (hstyles : ∀ owner styles, loadStyles owner entries' styles = loadStyles owner entries styles)
    (hfields : ∀ field ∈ family.fields kind, (entries'.find? field.1).map field.2.take =
      (entries.find? field.1).map field.2.take) :
    family.read entries' = family.read entries := by
  have hshared (owner : String) (record : Record ν family.shared) :
      Record.load owner entries' family.shared record =
        Record.load owner entries family.shared record :=
    Record.load_congr owner
      (fun field hfield => hfields field (List.mem_append_left _ hfield)) record
  have hown (owner : String) (record : Record ν (family.own kind)) :
      Record.load owner entries' (family.own kind) record =
        Record.load owner entries (family.own kind) record :=
    Record.load_congr owner
      (fun field hfield => hfields field (List.mem_append_right _ hfield)) record
  have hload : family.load (family.initial ν kind) entries' =
      family.load (family.initial ν kind) entries := by
    simp only [load, initial, hstyles, hshared, hown]
  rw [read, read, htag, hkind]
  exact congrArg (some <$> ·) hload

/-! ## Insertions -/

/-- **One insertion** of something that reading passes over, inside of a node that is recognised. -/
inductive Inserts (family : NodeFamily) : Json → Json → Prop
  /-- An entry of a node under a key that is none of the keys of the node, even up to case. -/
  | entry {kind : NodeKind} {before after : Entries Json} {key : String} (value : Json)
      (hkind : family.kind? (.object (before ++ after)) = some kind)
      (hkey : ∀ name ∈ family.keys kind, foldCase key ≠ foldCase name) :
      Inserts family (.object (before ++ after)) (.object (before ++ (key, value) :: after))
  /-- An item of an array that is not recognised as a node. -/
  | item {before after : List Json} {item : Json} (hitem : family.kind? item = none) :
      Inserts family (.array (before ++ after)) (.array (before ++ item :: after))
  /-- A style in the bag of a node, under a tag that no style is registered under. -/
  | style {kind : NodeKind} {before after bag bag' : Entries Json} {key tag : String}
      (payload : Json)
      (hkind : family.kind? (.object (before ++ (key, .object (bag ++ bag')) :: after)) = some kind)
      (hkey : foldCase key = foldCase styleKey) (htag : Registry.styles.resolve? tag = none) :
      Inserts family (.object (before ++ (key, .object (bag ++ bag')) :: after))
        (.object (before ++ (key, .object (bag ++ (tag, payload) :: bag')) :: after))
  /-- Further down, in an item of an array. -/
  | inItem {before after : List Json} {item item' : Json} (h : Inserts family item item') :
      Inserts family (.array (before ++ item :: after)) (.array (before ++ item' :: after))
  /-- Further down, under an attribute that holds nodes. -/
  | inAttribute {kind : NodeKind} {before after : Entries Json} {key : String} {value value' : Json}
      {field : String × AttributeType}
      (hkind : family.kind? (.object (before ++ (key, value) :: after)) = some kind)
      (hfield : field ∈ family.fields kind) (hnodes : ∀ type, field.2 ≠ .scalar type)
      (hkey : foldCase key = foldCase field.1) (h : Inserts family value value') :
      Inserts family (.object (before ++ (key, value) :: after))
        (.object (before ++ (key, value') :: after))

/-- Two values that are read alike: as a node, and item by item. -/
structure ReadAlike (read : Entries (Reading ν) → Except Fault (Option ν)) (value value' : Json) :
    Prop where
  node : (Reading.of read value').node = (Reading.of read value).node
  items : (Reading.of read value').items.map nodesOf = (Reading.of read value).items.map nodesOf

variable {read : Entries (Reading ν) → Except Fault (Option ν)}

/-- An attribute that holds nodes takes the same from values that are read alike. -/
theorem ReadAlike.take_eq {value value' : Json} (h : ReadAlike read value value')
    {type : AttributeType} (hnodes : ∀ scalar, type ≠ .scalar scalar) :
    type.take (Reading.of read value') = type.take (Reading.of read value) := by
  funext owner name old
  rw [AttributeType.take, AttributeType.take]
  cases type with
  | scalar scalar => exact absurd rfl (hnodes scalar)
  | node => rw [AttributeType.load, AttributeType.load, h.node]
  | nodes =>
    have hitems := h.items
    simp only [AttributeType.load]
    cases hold : (Reading.of read value).items with
    | none =>
      rw [hold, Option.map_none, Option.map_eq_none_iff] at hitems
      rw [hitems]
    | some items =>
      rw [hold, Option.map_some] at hitems
      obtain ⟨items', hitems', hsame⟩ := Option.map_eq_some_iff.1 hitems
      rw [hitems']
      exact hsame

theorem find?_ofEntries (entries : Entries Json) (name : String) :
    (Reading.ofEntries read entries).find? name = (entries.find? name).map (Reading.of read) := by
  rw [Reading.ofEntries_eq_map, Entries.find?_map]

/-- The entries of an object are tagged as the object is. -/
theorem typeTag?_ofEntries (entries : Entries Json) :
    typeTag? (Reading.ofEntries read entries) = (entries.find? typeKey).bind Json.string? := by
  rw [typeTag?, find?_ofEntries, Option.bind_map]
  refine congrArg (Option.bind _) (funext fun value => ?_)
  rw [Function.comp_apply, Reading.value_of]

/-- The styles of a value as the bag of a node that has some already. -/
def bagStyles (owner : String) (styles : List Style) : Json → Except Fault (List Style)
  | .object bag => Style.decodeBag owner bag
  | _ => .ok styles

theorem loadStyles_ofEntries (owner : String) (entries : Entries Json) (styles : List Style) :
    loadStyles owner (Reading.ofEntries read entries) styles =
      ((entries.find? styleKey).map (bagStyles owner styles)).getD (.ok styles) := by
  rw [loadStyles, find?_ofEntries]
  cases entries.find? styleKey with
  | none => rfl
  | some value => cases value <;> simp only [Option.map_some, Reading.of] <;> rfl

section

-- how both families read entries: through their parts
variable {make : Parts family ν → ν}
  (hread : ∀ entries, read entries = Option.map make <$> family.read entries)

include hread

/-- What is not recognised is no node. -/
theorem node_of_kind?_eq_none {value : Json} (h : family.kind? value = none) :
    (Reading.of read value).node = .ok none := by
  cases value with
  | object entries =>
    have htag : (typeTag? (Reading.ofEntries read entries)).bind family.registry.resolve? =
        none := by
      rw [typeTag?_ofEntries]
      exact h
    rw [Reading.of, hread, NodeFamily.read, htag]
    rfl
  | _ => rw [Reading.of]

/-- **Objects are read alike** if one is recognised and the other has the same tag and the same
styles, and attributes take the same from both. -/
theorem readAlike_object {kind : NodeKind} {entries entries' : Entries Json}
    (hkind : family.kind? (.object entries) = some kind)
    (htag : entries'.find? typeKey = entries.find? typeKey)
    (hstyles : ∀ owner styles,
      loadStyles owner (Reading.ofEntries read entries') styles =
        loadStyles owner (Reading.ofEntries read entries) styles)
    (hfields : ∀ field ∈ family.fields kind,
      (entries'.find? field.1).map (fun value => field.2.take (Reading.of read value)) =
        (entries.find? field.1).map fun value => field.2.take (Reading.of read value)) :
    ReadAlike read (.object entries) (.object entries') where
  node := by
    have htags : typeTag? (Reading.ofEntries read entries') =
        typeTag? (Reading.ofEntries read entries) := by
      rw [typeTag?_ofEntries, typeTag?_ofEntries, htag]
    have hkinds : (typeTag? (Reading.ofEntries read entries)).bind family.registry.resolve? =
        some kind := by
      rw [typeTag?_ofEntries]
      exact hkind
    rw [Reading.of, Reading.of, hread, hread]
    refine congrArg (Option.map make <$> ·) (read_congr hkinds htags hstyles fun field hfield => ?_)
    rw [find?_ofEntries, find?_ofEntries, Option.map_map, Option.map_map]
    exact hfields field hfield
  items := by rw [Reading.of, Reading.of]

end

theorem typeKey_mem_keys {kind : NodeKind} : typeKey ∈ family.keys kind :=
  List.mem_cons_self

theorem styleKey_mem_keys {kind : NodeKind} : styleKey ∈ family.keys kind :=
  List.mem_append_right _ (List.mem_singleton_self _)

theorem mem_keys_of_mem_fields {kind : NodeKind} {field : String × AttributeType}
    (h : field ∈ family.fields kind) : field.1 ∈ family.keys kind :=
  List.mem_append_left _ (List.mem_cons_of_mem _ (List.mem_map_of_mem h))

namespace Lawful

variable (law : family.Lawful) {kind : NodeKind} {field field' : String × AttributeType}

include law

/-- The names of attributes are none of the other keys of a node, even up to case. -/
theorem foldCase_ne (hfield : field ∈ family.fields kind) :
    foldCase field.1 ≠ foldCase typeKey ∧ foldCase field.1 ≠ foldCase styleKey := by
  have hkeys := law.nodup_keys kind
  rw [keys, List.cons_append, List.map_cons, List.map_append, List.nodup_cons,
    List.nodup_append] at hkeys
  obtain ⟨htype, -, -, hstyle⟩ := hkeys
  have hmem : foldCase field.1 ∈ (((family.shared ++ family.own kind).map Prod.fst).map foldCase) :=
    List.mem_map_of_mem (List.mem_map_of_mem hfield)
  refine ⟨fun heq => htype ?_, hstyle _ hmem _ (by simp)⟩
  exact List.mem_append_left _ (heq ▸ hmem)

/-- No two attributes have names that are equal up to case. -/
theorem field_eq (hfield : field ∈ family.fields kind) (hfield' : field' ∈ family.fields kind)
    (h : foldCase field.1 = foldCase field'.1) : field = field' := by
  have hkeys := law.nodup_keys kind
  rw [keys, List.cons_append, List.map_cons, List.map_append, List.nodup_cons, List.nodup_append,
    List.map_map] at hkeys
  exact List.inj_on_of_nodup_map hkeys.2.1 hfield hfield' h

variable {make : Parts family ν → ν}
  (hread : ∀ entries, read entries = Option.map make <$> family.read entries) {value value' : Json}

include hread

/-- **An insertion is passed over.** -/
theorem readAlike_of_inserts (h : family.Inserts value value') : ReadAlike read value value' := by
  induction h with
  | @entry kind before after key value hkind hkey =>
    have hfind {name : String} (hname : name ∈ family.keys kind) :
        Entries.find? (before ++ (key, value) :: after) name =
          Entries.find? (before ++ after) name :=
      Entries.find?_of_ne value (hkey name hname)
    refine readAlike_object hread hkind (hfind typeKey_mem_keys) (fun owner styles => ?_)
      fun field hfield => ?_
    · rw [loadStyles_ofEntries, loadStyles_ofEntries, hfind styleKey_mem_keys]
    · rw [hfind (mem_keys_of_mem_fields hfield)]
  | @item before after item hitem =>
    refine ⟨by rw [Reading.of, Reading.of], ?_⟩
    rw [Reading.of, Reading.of, Reading.ofItems_eq_map, Reading.ofItems_eq_map, List.map_append,
      List.map_append, List.map_cons, node_of_kind?_eq_none hread hitem]
    exact congrArg some (nodesOf_append_none _ _)
  | @style kind before after bag bag' key tag payload hkind hkey htag =>
    have hsame (owner : String) (styles : List Style) :
        bagStyles owner styles (.object (bag ++ (tag, payload) :: bag')) =
          bagStyles owner styles (.object (bag ++ bag')) := by
      rw [bagStyles, bagStyles, Style.decodeBag, Style.decodeBag,
        Style.decodeEntries_append_unknown htag]
    have hother {name : String} (hname : foldCase name ≠ foldCase styleKey) :
        Entries.find? (before ++ (key, .object (bag ++ (tag, payload) :: bag')) :: after) name =
          Entries.find? (before ++ (key, .object (bag ++ bag')) :: after) name :=
      Entries.find?_replace_of_ne _ _ fun heq => hname (heq.symm.trans hkey)
    refine readAlike_object hread hkind (hother (by decide)) (fun owner styles => ?_)
      fun field hfield => ?_
    · rw [loadStyles_ofEntries, loadStyles_ofEntries,
        Entries.map_find?_replace (hsame owner styles)]
    · rw [hother (law.foldCase_ne hfield).2]
  | @inItem before after item item' _ ih =>
    refine ⟨by rw [Reading.of, Reading.of], ?_⟩
    rw [Reading.of, Reading.of, Reading.ofItems_eq_map, Reading.ofItems_eq_map, List.map_append,
      List.map_append, List.map_cons, List.map_cons, ih.node]
  | @inAttribute kind before after key value value' field hkind hfield hnodes hkey _ ih =>
    have hne := law.foldCase_ne hfield
    rw [← hkey] at hne
    refine readAlike_object hread hkind (Entries.find?_replace_of_ne _ _ hne.1)
      (fun owner styles => ?_) fun other hother => ?_
    · rw [loadStyles_ofEntries, loadStyles_ofEntries, Entries.find?_replace_of_ne _ _ hne.2]
    · by_cases heq : foldCase key = foldCase other.1
      · obtain rfl := law.field_eq hother hfield (heq.symm.trans hkey)
        exact Entries.map_find?_replace (ih.take_eq hnodes)
      · rw [Entries.find?_replace_of_ne _ _ heq]

/-- Any number of insertions is passed over. -/
theorem node_eq_of_inserts (h : Relation.EqvGen family.Inserts value value') :
    (Reading.of read value').node = (Reading.of read value).node := by
  induction h with
  | rel _ _ hinserts => exact (law.readAlike_of_inserts hread hinserts).node
  | refl _ => rfl
  | symm _ _ _ ih => exact ih.symm
  | trans _ _ _ _ _ ih ih' => exact ih'.trans ih

end Lawful

end NodeFamily

/-! ## Both families -/

/-- **Reading passes over what it does not know.**  With any number of insertions more or less, a
value is read as the same template and as the same document, or with the same fault, or is no node
either way. -/
theorem ofJson_eq_of_inserts :
    (∀ value value' : Json, Relation.EqvGen Template.family.Inserts value value' →
      Template.ofJson value' = Template.ofJson value) ∧
    ∀ value value' : Json, Relation.EqvGen Doc.family.Inserts value value' →
      Doc.ofJson value' = Doc.ofJson value :=
  ⟨fun _ _ h => Template.lawful_family.node_eq_of_inserts (fun _ => rfl) h,
    fun _ _ h => Doc.lawful_family.node_eq_of_inserts (fun _ => rfl) h⟩

/-- A paragraph with a text. -/
def plainParagraph : Json :=
  .object [("$type", .string "paragraph"),
    ("spans", .array [.object [("$type", .string "span"), ("value", .string "x")]]),
    ("$styles", .object [])]

/-- The same paragraph with an entry, an item and a style that are not known. -/
def annotatedParagraph : Json :=
  .object [("$type", .string "paragraph"),
    ("spans", .array [.object [("$type", .string "span"), ("lang", .string "en"),
      ("value", .string "x")], .object [("$type", .string "chart")]]),
    ("$styles", .object [("shadow", .bool true)])]

open NodeFamily (Inserts) in
theorem inserts_annotatedParagraph {family : NodeFamily}
    (hparagraph : family.registry.resolve? "paragraph" = some .paragraph)
    (hspan : family.registry.resolve? "span" = some .span)
    (hchart : family.registry.resolve? "chart" = none)
    (hspans : ("spans", .nodes) ∈ family.fields .paragraph)
    (hlang : ∀ name ∈ family.keys .span, foldCase "lang" ≠ foldCase name) :
    Relation.EqvGen family.Inserts plainParagraph annotatedParagraph := by
  let span : Json := .object [("$type", .string "span"), ("value", .string "x")]
  let marked : Json :=
    .object [("$type", .string "span"), ("lang", .string "en"), ("value", .string "x")]
  let paragraph (spans : List Json) (styles : Entries Json) : Json :=
    .object [("$type", .string "paragraph"), ("spans", .array spans), ("$styles", .object styles)]
  have hkind (spans : List Json) (styles : Entries Json) :
      family.kind? (paragraph spans styles) = some .paragraph := hparagraph
  have hnodes (type : Scalar) : AttributeType.nodes ≠ .scalar type := nofun
  have below {spans spans' : List Json} (h : family.Inserts (.array spans) (.array spans')) :
      family.Inserts (paragraph spans []) (paragraph spans' []) :=
    @Inserts.inAttribute family .paragraph [("$type", .string "paragraph")]
      [("$styles", .object [])] "spans" (.array spans) (.array spans') _ (hkind spans []) hspans
      hnodes rfl h
  have hentry : family.Inserts span marked :=
    @Inserts.entry family .span [("$type", .string "span")] [("value", .string "x")] "lang"
      (.string "en") hspan hlang
  have hitem : family.Inserts (.array [marked])
      (.array [marked, .object [("$type", .string "chart")]]) :=
    @Inserts.item family [marked] [] _ hchart
  have hstyle (spans : List Json) :
      family.Inserts (paragraph spans []) (paragraph spans [("shadow", .bool true)]) :=
    @Inserts.style family .paragraph [("$type", .string "paragraph"), ("spans", .array spans)] []
      [] [] "$styles" "shadow" (.bool true) (hkind spans []) rfl (by decide +kernel)
  exact .trans _ _ _ (.rel _ _ (below (@Inserts.inItem family [] [] _ _ hentry)))
    (.trans _ _ _ (.rel _ _ (below hitem)) (.rel _ _ (hstyle _)))

theorem annotatedParagraph_read :
    (∃ paragraph, Template.ofJson plainParagraph = .ok (some paragraph) ∧
      Template.ofJson annotatedParagraph = .ok (some paragraph)) ∧
    ∃ paragraph, Doc.ofJson plainParagraph = .ok (some paragraph) ∧
      Doc.ofJson annotatedParagraph = .ok (some paragraph) := by
  have htemplate : Relation.EqvGen Template.family.Inserts plainParagraph annotatedParagraph :=
    inserts_annotatedParagraph rfl rfl rfl (by decide +kernel) (by decide +kernel)
  have hdoc : Relation.EqvGen Doc.family.Inserts plainParagraph annotatedParagraph :=
    inserts_annotatedParagraph rfl rfl rfl (by decide +kernel) (by decide +kernel)
  exact ⟨⟨_, rfl, ofJson_eq_of_inserts.1 _ _ htemplate⟩, ⟨_, rfl, ofJson_eq_of_inserts.2 _ _ hdoc⟩⟩

end Bindery
