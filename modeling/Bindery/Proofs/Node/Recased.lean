import Bindery.Proofs.Node.Rejection
import Bindery.Proofs.Text.Lowercase

/-!
# The case of keys and tags

Keys are looked up without regard to the case of ASCII letters, and tags and the keys of payloads
are made small before they are looked up.  So a persisted tree may be *recased*
(`NodeFamily.Recased`): the letters of its keys, of its tags, of the tags of its styles and of the
keys of their payloads may be large or small.

Reading a recased tree succeeds exactly if it did before, and gives the same (`ofJson_recased`).
Only the fault may be another one, since it names the tag of a style as it is written.  What is
needed is that no object that is read has two keys that become equal: a look-up that finds the exact
key in one tree could find another one, which comes first, in the other.
-/

namespace Bindery

variable {ν : Type}

/-! ## Results up to faults -/

theorem toOption_nodesOf_cons (item : Except Fault (Option ν)) (items : List _) :
    (nodesOf (item :: items)).toOption =
      item.toOption.bind fun node => (nodesOf items).toOption.map (node.toList ++ ·) := by
  rcases item with fault | _ | node
  · rfl
  · rw [nodesOf]
    cases nodesOf items <;> rfl
  · rw [nodesOf, toOption_map]
    cases nodesOf items <;> rfl

theorem Record.toOption_overlay_congr {owner : String} {entries entries' : Entries (Reading ν)}
    {schema : Schema}
    (h : ∀ field ∈ schema, (field.2.offerFrom owner entries' field.1).toOption =
      (field.2.offerFrom owner entries field.1).toOption) :
    (overlay owner entries' schema).toOption = (overlay owner entries schema).toOption := by
  induction schema with
  | nil => rfl
  | cons field schema ih =>
    rw [List.forall_mem_cons] at h
    simp only [overlay, toOption_bind, h.1, ih h.2]

/-! ## Tags and payloads -/

theorem Registry.resolve?_congr {α : Type} (registry : Registry α) {tag tag' : String}
    (h : foldCase tag' = foldCase tag) : registry.resolve? tag' = registry.resolve? tag := by
  rw [resolve?, resolve?, Text.lowercase_congr h]

namespace Style

/-- Two payloads that differ at most in the case of their keys. -/
inductive RecasedPayload : Json → Json → Prop
  | same (payload : Json) : RecasedPayload payload payload
  | object {entries entries' : Entries Json}
      (h : List.Forall₂ (fun entry entry' => foldCase entry'.1 = foldCase entry.1 ∧
        entry'.2 = entry.2) entries entries') :
      RecasedPayload (.object entries) (.object entries')

/-- Two bags that differ at most in the case of their tags and of the keys of their payloads. -/
def RecasedBag : Entries Json → Entries Json → Prop :=
  List.Forall₂ fun entry entry' =>
    foldCase entry'.1 = foldCase entry.1 ∧ RecasedPayload entry.2 entry'.2

/-- A recased payload is read alike, and with the same fault if it is one. -/
theorem decode_of_recased {payload payload' : Json} (h : RecasedPayload payload payload')
    (kind : StyleKind) : decode kind payload' = decode kind payload := by
  cases h with
  | same => rfl
  | @object entries entries' h =>
    have hkeys : (entries'.map fun entry => (Text.lowercase entry.1, entry.2)) =
        entries.map fun entry => (Text.lowercase entry.1, entry.2) := by
      induction h with
      | nil => rfl
      | cons hentry _ ih =>
        exact congrArg₂ List.cons (Prod.ext (Text.lowercase_congr hentry.1) hentry.2) ih
    have hsmall : smallKeys entries' = smallKeys entries := congrArg Entries.ofList hkeys
    rw [decode, decode, decodeRecord, decodeRecord, hsmall]

/-- **A recased bag gives the same styles**, if it gives any. -/
theorem decodeBag_of_recased {bag bag' : Entries Json} (h : RecasedBag bag bag') (owner : String) :
    (decodeBag owner bag').toOption = (decodeBag owner bag).toOption := by
  have hentries : (decodeEntries owner bag').toOption = (decodeEntries owner bag).toOption := by
    induction h with
    | nil => rfl
    | cons hentry _ ih =>
      rw [decodeEntries, decodeEntries, Registry.styles.resolve?_congr hentry.1]
      cases Registry.styles.resolve? _ with
      | none => exact ih
      | some kind =>
        dsimp only
        rw [decode_of_recased hentry.2]
        cases decode kind _ with
        | error reason => rfl
        | ok style => exact (toOption_map _ _).trans (ih ▸ (toOption_map _ _).symm)
  rw [decodeBag, decodeBag, toOption_map, toOption_map, hentries]

end Style

/-! ## Trees -/

namespace NodeFamily

/-- The keys whose values are not read as nodes: those of the tag, of the styles and of scalars. -/
def plainKeys (family : NodeFamily) (kind? : Option NodeKind) : List String :=
  typeKey :: styleKey :: (kind?.elim [] family.fields).filterMap fun field =>
    match field.2 with
    | .scalar _ => some field.1
    | .node | .nodes => none

mutual

/-- Two values that differ at most in the case of keys and tags, at every depth. -/
inductive Recased (family : NodeFamily) : Json → Json → Prop
  | refl (value : Json) : Recased family value value
  | array {items items' : List Json} (h : RecasedItems family items items') :
      Recased family (.array items) (.array items')
  | object {entries entries' : Entries Json}
      (h : RecasedEntries family (family.kind? (.object entries)) entries entries') :
      Recased family (.object entries) (.object entries')

/-- The items of arrays, one by one. -/
inductive RecasedItems (family : NodeFamily) : List Json → List Json → Prop
  | nil : RecasedItems family [] []
  | cons {item item' : Json} {items items' : List Json} (hitem : Recased family item item')
      (h : RecasedItems family items items') :
      RecasedItems family (item :: items) (item' :: items')

/-- The entries of objects, one by one.  The first object may be recognised as a node. -/
inductive RecasedEntries (family : NodeFamily) :
    Option NodeKind → Entries Json → Entries Json → Prop
  | nil {kind? : Option NodeKind} : RecasedEntries family kind? [] []
  | cons {kind? : Option NodeKind} {key key' : String} {value value' : Json}
      {entries entries' : Entries Json} (hkey : foldCase key' = foldCase key)
      (hvalue : RecasedUnder family kind? key value value')
      (h : RecasedEntries family kind? entries entries') :
      RecasedEntries family kind? ((key, value) :: entries) ((key', value') :: entries')

/-- What stands under a key of an object.  The value of a scalar is no key and stays as it is. -/
inductive RecasedUnder (family : NodeFamily) : Option NodeKind → String → Json → Json → Prop
  | same {kind? : Option NodeKind} {key : String} (value : Json) :
      RecasedUnder family kind? key value value
  /-- The tag. -/
  | tag {kind? : Option NodeKind} {key tag tag' : String} (hkey : foldCase key = foldCase typeKey)
      (htag : foldCase tag' = foldCase tag) :
      RecasedUnder family kind? key (.string tag) (.string tag')
  /-- The bag of styles. -/
  | styles {kind? : Option NodeKind} {key : String} {bag bag' : Entries Json}
      (hkey : foldCase key = foldCase styleKey) (hbag : Style.RecasedBag bag bag') :
      RecasedUnder family kind? key (.object bag) (.object bag')
  /-- Anything but the tag, the styles and the scalars. -/
  | inside {kind? : Option NodeKind} {key : String} {value value' : Json}
      (hkey : ∀ name ∈ family.plainKeys kind?, foldCase key ≠ foldCase name)
      (h : Recased family value value') : RecasedUnder family kind? key value value'

end

/-- No object that is read has two keys that are equal up to the case of ASCII letters. -/
def ReadsDistinctKeys (family : NodeFamily) (value : Json) : Prop :=
  ∀ entries, family.Reaches value (.object entries) →
    (entries.map fun entry => foldCase entry.1).Nodup

variable {family : NodeFamily}

theorem ReadsDistinctKeys.of_below {value child : Json} (h : family.ReadsDistinctKeys value)
    (hbelow : family.Below value child) : family.ReadsDistinctKeys child :=
  fun entries hreaches => h entries (hreaches.head hbelow)

/-- It is enough that no object at all has such keys. -/
theorem readsDistinctKeys_of_distinctKeys {value : Json} (h : value.DistinctKeys) :
    family.ReadsDistinctKeys value := by
  intro entries hreaches
  induction hreaches using Relation.ReflTransGen.head_induction_on with
  | refl =>
    cases h with
    | object hkeys _ => exact hkeys
  | head hbelow _ ih =>
    apply ih
    cases hbelow with
    | node _ _ hfind =>
      cases h with
      | object _ h => exact h _ (Entries.mem_of_find? hfind)
    | item _ _ hfind hitem =>
      cases h with
      | object _ h =>
        cases h _ (Entries.mem_of_find? hfind) with
        | array h => exact h _ hitem

/-! ## Look-ups -/

theorem RecasedEntries.map_foldCase {kind? : Option NodeKind} {entries entries' : Entries Json}
    (h : family.RecasedEntries kind? entries entries') :
    (entries'.map fun entry => foldCase entry.1) = entries.map fun entry => foldCase entry.1 := by
  induction entries generalizing entries' with
  | nil =>
    cases h
    rfl
  | cons entry entries ih =>
    cases h with
    | cons hkey _ h => rw [List.map_cons, List.map_cons, hkey, ih h]

/-- Two values under keys that are equal up to case to a name. -/
def RecasedAt (family : NodeFamily) (kind? : Option NodeKind) (name : String)
    (value value' : Json) : Prop :=
  ∃ key, foldCase key = foldCase name ∧ family.RecasedUnder kind? key value value'

/-- **Looking up a name** in a recased object finds what was found before, recased. -/
theorem RecasedEntries.find? {kind? : Option NodeKind} {entries entries' : Entries Json}
    (h : family.RecasedEntries kind? entries entries')
    (hkeys : (entries.map fun entry => foldCase entry.1).Nodup) (name : String) :
    Option.Rel (family.RecasedAt kind? name) (entries.find? name) (entries'.find? name) := by
  have hkeys' : (entries'.map fun entry => foldCase entry.1).Nodup := h.map_foldCase ▸ hkeys
  rw [Entries.find?_eq_getIgnoringCase? hkeys, Entries.find?_eq_getIgnoringCase? hkeys',
    Entries.getIgnoringCase?, Entries.getIgnoringCase?]
  clear hkeys hkeys'
  induction entries generalizing entries' with
  | nil =>
    cases h
    exact .none
  | cons entry entries ih =>
    cases h with
    | @cons _ key key' value value' _ _ hkey hvalue h =>
      rw [List.find?_cons, List.find?_cons, hkey]
      cases hfound : foldCase key == foldCase name with
      | true => exact .some ⟨key, eq_of_beq hfound, hvalue⟩
      | false => exact ih h

theorem styleKey_mem_plainKeys (kind? : Option NodeKind) : styleKey ∈ family.plainKeys kind? :=
  List.mem_cons_of_mem _ List.mem_cons_self

theorem typeKey_mem_plainKeys (kind? : Option NodeKind) : typeKey ∈ family.plainKeys kind? :=
  List.mem_cons_self

theorem mem_plainKeys_of_scalar {kind : NodeKind} {name : String} {type : Scalar}
    (hfield : (name, .scalar type) ∈ family.fields kind) : name ∈ family.plainKeys (some kind) :=
  List.mem_cons_of_mem _ (List.mem_cons_of_mem _ (List.mem_filterMap.2 ⟨_, hfield, rfl⟩))

/-- A recased object is recognised as what it was. -/
theorem RecasedEntries.kind?_eq {kind? : Option NodeKind} {entries entries' : Entries Json}
    (h : family.RecasedEntries kind? entries entries')
    (hkeys : (entries.map fun entry => foldCase entry.1).Nodup) :
    family.kind? (.object entries') = family.kind? (.object entries) := by
  rw [NodeFamily.kind?, NodeFamily.kind?]
  have hfind := h.find? hkeys typeKey
  generalize entries.find? typeKey = found at hfind ⊢
  generalize entries'.find? typeKey = found' at hfind ⊢
  cases hfind with
  | none => rfl
  | some hvalue =>
    obtain ⟨key, hkey, hunder⟩ := hvalue
    cases hunder with
    | same => rfl
    | tag _ htag => exact family.registry.resolve?_congr htag
    | styles => rfl
    | inside hplain => exact absurd hkey (hplain _ (typeKey_mem_plainKeys _))

variable {read : Entries (Reading ν) → Except Fault (Option ν)}

/-- The styles of a recased object, up to the fault. -/
theorem RecasedEntries.offerStyles_eq {kind? : Option NodeKind} {entries entries' : Entries Json}
    (h : family.RecasedEntries kind? entries entries')
    (hkeys : (entries.map fun entry => foldCase entry.1).Nodup) (owner : String) :
    (offerStyles owner (Reading.ofEntries read entries')).toOption =
      (offerStyles owner (Reading.ofEntries read entries)).toOption := by
  rw [offerStyles, offerStyles, find?_ofEntries, find?_ofEntries]
  have hfind := h.find? hkeys styleKey
  generalize entries.find? styleKey = found at hfind ⊢
  generalize entries'.find? styleKey = found' at hfind ⊢
  cases hfind with
  | none => rfl
  | some hvalue =>
    simp only [Option.map_some, Reading.value_of]
    obtain ⟨key, hkey, hunder⟩ := hvalue
    cases hunder with
    | same => rfl
    | tag => rfl
    | styles _ hbag =>
      rw [offerBag, offerBag, toOption_map, toOption_map, Style.decodeBag_of_recased hbag]
    | inside hplain => exact absurd hkey (hplain _ (styleKey_mem_plainKeys _))

/-- Values that are read alike as nodes, up to the fault. -/
def NodeAlike (read : Entries (Reading ν) → Except Fault (Option ν)) (value value' : Json) : Prop :=
  (Reading.of read value').node.toOption = (Reading.of read value).node.toOption

/-- The nodes among recased items, if the items are read alike. -/
theorem RecasedItems.nodesOf_eq {items items' : List Json} (h : family.RecasedItems items items')
    (hitems : ∀ item ∈ items, ∀ item', family.Recased item item' → NodeAlike read item item') :
    (nodesOf (Reading.ofItems read items')).toOption =
      (nodesOf (Reading.ofItems read items)).toOption := by
  induction items generalizing items' with
  | nil =>
    cases h
    rfl
  | cons item items ih =>
    cases h with
    | cons hitem h =>
      rw [List.forall_mem_cons] at hitems
      have hnode : NodeAlike read item _ := hitems.1 _ hitem
      rw [Reading.ofItems, Reading.ofItems, toOption_nodesOf_cons, toOption_nodesOf_cons, hnode,
        ih h hitems.2]

section Recognised

-- a recased object that is recognised, where what is right below is read alike
variable {kind : NodeKind} {entries entries' : Entries Json} (law : family.Lawful)
  (hkind : family.kind? (.object entries) = some kind)
  (h : family.RecasedEntries (some kind) entries entries')
  (hkeys : (entries.map fun entry => foldCase entry.1).Nodup)
  (hbelow : ∀ child, family.Below (.object entries) child →
    ∀ child', family.Recased child child' → NodeAlike read child child')

include law hkind h hkeys hbelow

/-- It brings the same for an attribute, up to the fault. -/
theorem offerFrom_of_recased {field : String × AttributeType} (hfield : field ∈ family.fields kind)
    (owner : String) :
    (field.2.offerFrom owner (Reading.ofEntries read entries') field.1).toOption =
      (field.2.offerFrom owner (Reading.ofEntries read entries) field.1).toOption := by
  obtain ⟨name, type⟩ := field
  obtain ⟨htype, hstyle⟩ := law.foldCase_ne hfield
  have hfind := h.find? hkeys name
  rw [AttributeType.offerFrom, AttributeType.offerFrom, find?_ofEntries, find?_ofEntries]
  generalize hfound : entries.find? name = found at hfind ⊢
  generalize entries'.find? name = found' at hfind ⊢
  cases hfind with
  | none => rfl
  | @some value value' hvalue =>
    simp only [Option.map_some]
    obtain ⟨key, hkey, hunder⟩ := hvalue
    cases hunder with
    | same => rfl
    | tag htag => exact absurd (hkey.symm.trans htag) htype
    | styles hstyles => exact absurd (hkey.symm.trans hstyles) hstyle
    | inside hplain hrecased =>
      cases type with
      | scalar type => exact absurd hkey (hplain _ (mem_plainKeys_of_scalar hfield))
      | node =>
        have hnode := hbelow value (.node hkind hfield hfound) value' hrecased
        rw [AttributeType.offer, AttributeType.offer, toOption_map, toOption_map, hnode]
      | nodes =>
        cases hrecased with
        | refl => rfl
        | object => simp only [AttributeType.offer, Reading.of]
        | array hitems =>
          have hnodes : (nodesOf (Reading.ofItems read _)).toOption =
              (nodesOf (Reading.ofItems read _)).toOption :=
            hitems.nodesOf_eq fun item hitem => hbelow item (.item hkind hfield hfound hitem)
          simp only [AttributeType.offer, Reading.of, toOption_map, hnodes]

/-- **It brings the same to a node of its kind**, up to the fault. -/
theorem overlay_of_recased :
    (family.overlay kind (Reading.ofEntries read entries')).toOption =
      (family.overlay kind (Reading.ofEntries read entries)).toOption := by
  have hfield : ∀ field ∈ family.fields kind, ∀ owner,
      (field.2.offerFrom owner (Reading.ofEntries read entries') field.1).toOption =
        (field.2.offerFrom owner (Reading.ofEntries read entries) field.1).toOption :=
    fun field hfield => offerFrom_of_recased law hkind h hkeys hbelow hfield
  have hshared (owner : String) :=
    Record.toOption_overlay_congr fun field h => hfield field (List.mem_append_left _ h) owner
  have hown (owner : String) :=
    Record.toOption_overlay_congr fun field h => hfield field (List.mem_append_right _ h) owner
  simp only [overlay, toOption_bind, h.offerStyles_eq hkeys, hshared, hown]

end Recognised

/-- **A recased tree is read alike.** -/
theorem Lawful.nodeAlike_of_recased (law : family.Lawful) {make : Parts family ν → ν}
    (hread : ∀ entries, read entries = Option.map make <$> family.read entries)
    {value value' : Json} (h : family.Recased value value')
    (hkeys : family.ReadsDistinctKeys value) :
    NodeAlike read value value' := by
  induction value using family.wellFounded_below.induction generalizing value' with
  | h value ih =>
    cases h with
    | refl => rfl
    | array => rw [NodeAlike, Reading.of, Reading.of]
    | @object entries entries' h =>
      have hnodup := hkeys entries .refl
      have hsame := h.kind?_eq hnodup
      cases hkind : family.kind? (.object entries) with
      | none =>
        rw [NodeAlike, node_of_kind?_eq_none hread hkind,
          node_of_kind?_eq_none hread (hsame.trans hkind)]
      | some kind =>
        rw [hkind] at h
        have hbelow (child : Json) (hchild : family.Below (.object entries) child) (child' : Json)
            (hrecased : family.Recased child child') : NodeAlike read child child' :=
          ih child hchild hrecased (hkeys.of_below hchild)
        rw [NodeAlike, node_object hread hkind, node_object hread (hsame.trans hkind),
          toOption_map, toOption_map, overlay_of_recased law hkind h hnodup hbelow]

end NodeFamily

/-- **Reading does not depend on the case of keys and tags**: a recased tree is accepted if the tree
is, and is the same template or document, or none. -/
theorem ofJson_recased :
    (∀ value value', Template.family.Recased value value' →
      Template.family.ReadsDistinctKeys value →
        (Template.ofJson value').toOption = (Template.ofJson value).toOption) ∧
    ∀ value value', Doc.family.Recased value value' → Doc.family.ReadsDistinctKeys value →
      (Doc.ofJson value').toOption = (Doc.ofJson value).toOption :=
  ⟨fun _ _ h hkeys => Template.lawful_family.nodeAlike_of_recased (fun _ => rfl) h hkeys,
    fun _ _ h hkeys => Doc.lawful_family.nodeAlike_of_recased (fun _ => rfl) h hkeys⟩

/-- A paragraph with a text and a style. -/
def smallParagraph : Json :=
  .object [("$type", .string "paragraph"),
    ("spans", .array [.object [("$type", .string "span"), ("value", .string "x")]]),
    ("$styles", .object [("width", .object [("value", .ofInt 1)])])]

/-- The same paragraph in large letters. -/
def largeParagraph : Json :=
  .object [("$TYPE", .string "PARAGRAPH"),
    ("SPANS", .array [.object [("$TYPE", .string "SPAN"), ("VALUE", .string "x")]]),
    ("$STYLES", .object [("WIDTH", .object [("VALUE", .ofInt 1)])])]

theorem distinctKeys_smallParagraph : smallParagraph.DistinctKeys := by
  have hspan : (Json.object [("$type", .string "span"), ("value", .string "x")]).DistinctKeys :=
    .object (by decide) (by simp [Json.DistinctKeys.string])
  have hwidth : (Json.object [("width", .object [("value", .ofInt 1)])]).DistinctKeys :=
    .object (by decide) (by simpa using .object (by decide) (by simpa using .number _))
  refine .object (by decide) ?_
  simp only [List.map_cons, List.map_nil, List.forall_mem_cons, List.not_mem_nil, false_imp_iff,
    implies_true, and_true]
  exact ⟨.string _, .array (by simpa using hspan), hwidth⟩

open NodeFamily in
theorem recased_largeParagraph {family : NodeFamily}
    (hspans : ∀ name ∈ family.plainKeys (family.kind? smallParagraph),
      foldCase "spans" ≠ foldCase name) : family.Recased smallParagraph largeParagraph := by
  have hspan : family.Recased (.object [("$type", .string "span"), ("value", .string "x")])
      (.object [("$TYPE", .string "SPAN"), ("VALUE", .string "x")]) :=
    .object (.cons (by decide) (.tag (by decide) (by decide))
      (.cons (by decide) (.same _) .nil))
  have hbag : Style.RecasedBag [("width", .object [("value", .ofInt 1)])]
      [("WIDTH", .object [("VALUE", .ofInt 1)])] :=
    .cons ⟨by decide, .object (.cons ⟨by decide, rfl⟩ .nil)⟩ .nil
  exact .object (.cons (by decide) (.tag (by decide) (by decide))
    (.cons (by decide) (.inside hspans (.array (.cons hspan .nil)))
      (.cons (by decide) (.styles (by decide) hbag) .nil)))

theorem largeParagraph_read :
    (∃ paragraph, Template.ofJson smallParagraph = .ok (some paragraph) ∧
      (Template.ofJson largeParagraph).toOption = some (some paragraph)) ∧
    ∃ paragraph, Doc.ofJson smallParagraph = .ok (some paragraph) ∧
      (Doc.ofJson largeParagraph).toOption = some (some paragraph) := by
  have hkeys {family : NodeFamily} : family.ReadsDistinctKeys smallParagraph :=
    NodeFamily.readsDistinctKeys_of_distinctKeys distinctKeys_smallParagraph
  exact ⟨⟨_, rfl, ofJson_recased.1 _ _ (recased_largeParagraph (by decide +kernel)) hkeys⟩,
    ⟨_, rfl, ofJson_recased.2 _ _ (recased_largeParagraph (by decide +kernel)) hkeys⟩⟩

end Bindery
