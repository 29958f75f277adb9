import Bindery.Proofs.Entries
import Bindery.Proofs.Style.Bag
import Bindery.Proofs.Text.Lowercase

/-!
# Payloads with keys that are equal up to case

A payload may give a field several times, under keys that differ in the case of their letters.  The
look-up that is shared by the other parts of a document prefers the exact key and falls back to the
first key that is equal to it up to case (`Entries.entryFor?`).  The payload of a style is not
looked up in.  All its keys are made small, one entry after the other, and so the last of the keys
that become equal counts (`Entries.lastEntryFor?`), whether or not an exact key stands before it.

* `Style.get?_smallKeys`: what is found under a small key, in terms of the keys as written.
* `StyleRecord.read?`: the fields of a style, read with any look-up.  A payload is this reading with
  `Entries.lastEntryFor?` as the look-up (`Style.toOption_decode_object`), or with the shared one if
  no two keys are equal up to case (`Style.toOption_decode_of_nodup`).
* `Style.decode_kept`: a payload counts as if only the last entries were there.  It counts as if
  only the entries of the shared look-up were there exactly if the two give every field the same
  value, or each of them gives some field none.
-/

namespace Bindery

/-! ## Entries that answer for a key -/

namespace Entries

variable {α : Type} {entries : Entries α} {key : String} {entry : String × α}

/-- The entry under this key, or else the first one under a key equal to it up to case. -/
def entryFor? (entries : Entries α) (key : String) : Option (String × α) :=
  (List.find? (fun entry => entry.1 == key) entries).or
    (List.find? (fun entry => foldCase entry.1 == foldCase key) entries)

/-- The last entry under a key equal to this one up to case. -/
def lastEntryFor? (entries : Entries α) (key : String) : Option (String × α) :=
  List.find? (fun entry => foldCase entry.1 == foldCase key) entries.reverse

/-- The shared look-up answers with the value of this entry. -/
theorem map_snd_entryFor? (entries : Entries α) (key : String) :
    (entries.entryFor? key).map Prod.snd = entries.find? key :=
  Option.map_or

theorem mem_of_entryFor? (h : entries.entryFor? key = some entry) : entry ∈ entries := by
  rcases Option.or_eq_some_iff.1 h with hexact | ⟨-, hfolded⟩
  · exact List.mem_of_find?_eq_some hexact
  · exact List.mem_of_find?_eq_some hfolded

theorem foldCase_of_entryFor? (h : entries.entryFor? key = some entry) :
    foldCase entry.1 = foldCase key := by
  rcases Option.or_eq_some_iff.1 h with hexact | ⟨-, hfolded⟩
  · exact congrArg foldCase (eq_of_beq (List.find?_some hexact :))
  · exact eq_of_beq (List.find?_some hfolded :)

/-- There is an entry to answer from if some key is equal to this one up to case. -/
theorem entryFor?_eq_none_iff :
    entries.entryFor? key = none ↔ ∀ entry ∈ entries, foldCase entry.1 ≠ foldCase key := by
  simp only [entryFor?, Option.or_eq_none_iff, List.find?_eq_none, beq_iff_eq]
  refine ⟨fun h => h.2, fun h => ⟨fun entry hentry hkey => ?_, h⟩⟩
  exact h entry hentry (congrArg foldCase hkey)

theorem mem_of_lastEntryFor? (h : entries.lastEntryFor? key = some entry) : entry ∈ entries :=
  List.mem_reverse.1 (List.mem_of_find?_eq_some h)

theorem foldCase_of_lastEntryFor? (h : entries.lastEntryFor? key = some entry) :
    foldCase entry.1 = foldCase key :=
  eq_of_beq (List.find?_some h :)

/-- There is a last entry for a key under the same condition. -/
theorem lastEntryFor?_eq_none_iff :
    entries.lastEntryFor? key = none ↔ ∀ entry ∈ entries, foldCase entry.1 ≠ foldCase key := by
  simp [lastEntryFor?]

/-- **The shared look-up answers from the last entry** if the keys differ even up to case. -/
theorem lastEntryFor?_eq_entryFor? (hkeys : (entries.map fun entry => foldCase entry.1).Nodup)
    (key : String) : entries.lastEntryFor? key = entries.entryFor? key := by
  cases hlast : entries.lastEntryFor? key with
  | none => exact (entryFor?_eq_none_iff.2 (lastEntryFor?_eq_none_iff.1 hlast)).symm
  | some last =>
    cases hentry : entries.entryFor? key with
    | none =>
      exact absurd (foldCase_of_lastEntryFor? hlast)
        (entryFor?_eq_none_iff.1 hentry last (mem_of_lastEntryFor? hlast))
    | some entry =>
      have hsame : last = entry :=
        List.inj_on_of_nodup_map hkeys (mem_of_lastEntryFor? hlast) (mem_of_entryFor? hentry)
          ((foldCase_of_lastEntryFor? hlast).trans (foldCase_of_entryFor? hentry).symm)
      rw [hsame]

end Entries

/-! ## The fields of a kind -/

namespace StyleKind

/-- The name of a field is small and in ASCII, and has no `k`, which the sign for kelvin becomes. -/
theorem plain_fields (kind : StyleKind) :
    ∀ name ∈ kind.fields.map StyleField.name, ∀ d ∈ name.toList, d.toNat < 0x80 ∧ d ≠ 'k' := by
  cases kind <;> simp

/-- The names of the fields differ even up to case. -/
theorem nodup_foldCase_fields (kind : StyleKind) :
    (kind.fields.map fun field => foldCase field.name).Nodup := by
  cases kind <;> decide +kernel

/-- `kept` has, for every field, only the entry that is found under the name of the field. -/
def Keeps (kind : StyleKind) (found? : String → Option (String × Json)) (kept : Entries Json) :
    Prop :=
  ∀ entry, entry ∈ kept ↔ ∃ field ∈ kind.fields, found? field.name = some entry

/-- The entries that are found for the fields, in the order of the fields. -/
theorem keeps_filterMap (kind : StyleKind) (found? : String → Option (String × Json)) :
    kind.Keeps found? (kind.fields.filterMap fun field => found? field.name) :=
  fun _ => List.mem_filterMap

/-- Among the entries that are kept each field has one, the one that was found. -/
theorem Keeps.lastEntryFor? {kind : StyleKind} {found? : String → Option (String × Json)}
    {kept : Entries Json} (hkept : kind.Keeps found? kept)
    (hfound : ∀ {name entry}, found? name = some entry → foldCase entry.1 = foldCase name)
    {field : StyleField} (hfield : field ∈ kind.fields) :
    kept.lastEntryFor? field.name = found? field.name := by
  -- an entry that answers for the field is the one of the field, since no other name is equal
  have hown {entry : String × Json} (hentry : entry ∈ kept)
      (hfold : foldCase entry.1 = foldCase field.name) : found? field.name = some entry := by
    obtain ⟨other, hother, hsome⟩ := (hkept entry).1 hentry
    have hsame : other = field := List.inj_on_of_nodup_map kind.nodup_foldCase_fields hother hfield
      ((hfound hsome).symm.trans hfold)
    exact hsame ▸ hsome
  cases hlast : kept.lastEntryFor? field.name with
  | some entry =>
    exact (hown (Entries.mem_of_lastEntryFor? hlast) (Entries.foldCase_of_lastEntryFor? hlast)).symm
  | none =>
    cases hsome : found? field.name with
    | none => rfl
    | some entry =>
      have hentry : entry ∈ kept := (hkept entry).2 ⟨field, hfield, hsome⟩
      exact absurd (hfound hsome) (Entries.lastEntryFor?_eq_none_iff.1 hlast entry hentry)

end StyleKind

/-! ## Reading with a look-up -/

/-- The value of a field, from what is found for it or else by default. -/
def StyleField.read? (field : StyleField) : Option Json → Option field.scalar.Value
  | some found => (field.scalar.decode found).toOption
  | none => field.default

namespace StyleRecord

/-- The values of the fields, from what a look-up finds under their names. -/
def read? : (fields : List StyleField) → (String → Option Json) → Option (StyleRecord fields)
  | [], _ => some ()
  | field :: fields, look =>
    (field.read? (look field.name)).bind fun value =>
      (read? fields look).map fun record => (value, record)

variable {fields : List StyleField} {look look' : String → Option Json}

theorem read?_eq_none_iff :
    read? fields look = none ↔ ∃ field ∈ fields, field.read? (look field.name) = none := by
  induction fields with
  | nil => simp [read?]
  | cons field fields ih =>
    rw [read?, List.exists_mem_cons_iff, ← ih]
    cases field.read? (look field.name) <;> simp

theorem read?_congr (h : ∀ field ∈ fields,
      field.read? (look field.name) = field.read? (look' field.name)) :
    read? fields look = read? fields look' := by
  induction fields with
  | nil => rfl
  | cons field fields ih =>
    rw [List.forall_mem_cons] at h
    rw [read?, read?, h.1, ih h.2]

theorem read?_cons_eq_some {field : StyleField} {value : field.scalar.Value}
    {record : StyleRecord fields} : read? (field :: fields) look = some (value, record) ↔
      field.read? (look field.name) = some value ∧ read? fields look = some record := by
  rw [read?, Option.bind_eq_some_iff]
  constructor
  · rintro ⟨v, hvalue, hrest⟩
    obtain ⟨r, hrecord, hpair⟩ := Option.map_eq_some_iff.1 hrest
    cases hpair
    exact ⟨hvalue, hrecord⟩
  · rintro ⟨hvalue, hrecord⟩
    exact ⟨value, hvalue, Option.map_eq_some_iff.2 ⟨record, hrecord, rfl⟩⟩

/-- Of one record, every field was read as the same value. -/
theorem eq_of_read?_eq_some {record : StyleRecord fields} (h : read? fields look = some record)
    (h' : read? fields look' = some record) :
    ∀ field ∈ fields, field.read? (look field.name) = field.read? (look' field.name) := by
  induction fields with
  | nil => exact fun _ hnil => absurd hnil List.not_mem_nil
  | cons field fields ih =>
    obtain ⟨value, record⟩ := record
    obtain ⟨hvalue, hrecord⟩ := read?_cons_eq_some.1 h
    obtain ⟨hvalue', hrecord'⟩ := read?_cons_eq_some.1 h'
    exact List.forall_mem_cons.2 ⟨hvalue.trans hvalue'.symm, ih hrecord hrecord'⟩

/-- **Two look-ups give the same result** exactly if they give every field the same value, or if
neither gives a record. -/
theorem read?_eq_iff : read? fields look = read? fields look' ↔
    (∀ field ∈ fields, field.read? (look field.name) = field.read? (look' field.name)) ∨
      (∃ field ∈ fields, field.read? (look field.name) = none) ∧
        ∃ field ∈ fields, field.read? (look' field.name) = none := by
  rw [← read?_eq_none_iff, ← read?_eq_none_iff]
  constructor
  · intro heq
    cases hread : read? fields look with
    | none => exact .inr ⟨rfl, heq ▸ hread⟩
    | some record => exact .inl (eq_of_read?_eq_some hread (heq ▸ hread))
  · rintro (heq | ⟨hnone, hnone'⟩)
    · exact read?_congr heq
    · rw [hnone, hnone']

/-! ## Payloads under small keys -/

theorem toOption_ofEntries (fields : List StyleField) (entries : Entries Json) :
    (ofEntries fields entries).toOption = read? fields entries.get? := by
  induction fields with
  | nil => rfl
  | cons field fields ih =>
    have hrest (value : field.scalar.Value) :
        Except.toOption (do let record ← ofEntries fields entries; .ok (value, record)) =
          (read? fields entries.get?).map fun record => (value, record) := by
      rw [← ih]
      exact toOption_map _ _
    rw [ofEntries, read?]
    cases entries.get? field.name with
    | some found => exact (toOption_bind _ _).trans (congrArg _ (funext hrest))
    | none =>
      rw [StyleField.read?]
      cases field.default with
      | some value => exact hrest value
      | none => rfl

/-- A fault anywhere in the payload is one of a field that is read. -/
theorem read?_of_firstFault? {entries : Entries Json} {fault : Mismatch}
    (hkeys : (entries.map Prod.fst).Nodup) (h : firstFault? fields entries = some fault) :
    read? fields entries.get? = none := by
  obtain ⟨⟨key, found⟩, hentry, hfault⟩ := List.exists_of_findSome?_eq_some h
  dsimp only at hfault
  split at hfault
  · cases hfault
  · next field hfield =>
    split at hfault
    · cases hfault
    · next hdecode =>
      obtain rfl : field.name = key := eq_of_beq (List.find?_some hfield :)
      refine read?_eq_none_iff.2 ⟨field, List.mem_of_find?_eq_some hfield, ?_⟩
      rw [Entries.get?_of_mem hkeys hentry, StyleField.read?, hdecode]
      rfl

end StyleRecord

namespace Style

theorem ofRecord_injective (kind : StyleKind) : Function.Injective (ofRecord kind) := by
  intro record record' h
  have hrecord : HEq (ofRecord kind record).record (ofRecord kind record').record := by rw [h]
  cases kind <;> exact eq_of_heq hrecord

/-- **Under the small name of a field the last entry** with this name up to case is found. -/
theorem get?_smallKeys (entries : Entries Json) {kind : StyleKind} {field : StyleField}
    (hfield : field ∈ kind.fields) :
    (smallKeys entries).get? field.name = (entries.lastEntryFor? field.name).map Prod.snd := by
  have hname : field.name ∈ kind.fields.map StyleField.name := List.mem_map_of_mem hfield
  have hkey (key : String) :
      (Text.lowercase key == field.name) = (foldCase key == foldCase field.name) := by
    rw [Bool.eq_iff_iff, beq_iff_eq, beq_iff_eq]
    exact Text.lowercase_eq_iff (kind.plain_fields _ hname) (kind.lowercase_fields _ hname) key
  rw [smallKeys, Entries.get?_ofList, Entries.get?, ← List.map_reverse, List.find?_map,
    Option.map_map, Entries.lastEntryFor?]
  simp only [Function.comp_def, hkey]

/-- The style in a payload, if there is one, comes from the last entries for its fields. -/
theorem toOption_decode_object (kind : StyleKind) (entries : Entries Json) :
    (decode kind (.object entries)).toOption =
      (StyleRecord.read? kind.fields fun name => (entries.lastEntryFor? name).map Prod.snd).map
        (ofRecord kind) := by
  have hrecord : (decodeRecord kind (.object entries)).toOption =
      StyleRecord.read? kind.fields (smallKeys entries).get? := by
    rw [decodeRecord]
    split
    · next hfault =>
      exact (StyleRecord.read?_of_firstFault? (Entries.nodup_ofList _) hfault).symm
    · exact StyleRecord.toOption_ofEntries _ _
  have hlook : StyleRecord.read? kind.fields (smallKeys entries).get? =
      StyleRecord.read? kind.fields fun name => (entries.lastEntryFor? name).map Prod.snd :=
    StyleRecord.read?_congr fun field hfield => congrArg field.read? (get?_smallKeys entries hfield)
  rw [decode, toOption_map, hrecord, hlook]

/-- **A payload whose keys differ even up to case** is read with the shared look-up. -/
theorem toOption_decode_of_nodup (kind : StyleKind) {entries : Entries Json}
    (hkeys : (entries.map fun entry => foldCase entry.1).Nodup) :
    (decode kind (.object entries)).toOption =
      (StyleRecord.read? kind.fields entries.find?).map (ofRecord kind) := by
  rw [toOption_decode_object]
  congr 1
  refine StyleRecord.read?_congr fun field _ => ?_
  rw [Entries.lastEntryFor?_eq_entryFor? hkeys, Entries.map_snd_entryFor?]

/-- The entries that are kept are read as those that were found. -/
theorem toOption_decode_kept {kind : StyleKind} {found? : String → Option (String × Json)}
    {kept : Entries Json} (hkept : kind.Keeps found? kept)
    (hfound : ∀ {name entry}, found? name = some entry → foldCase entry.1 = foldCase name) :
    (decode kind (.object kept)).toOption =
      (StyleRecord.read? kind.fields fun name => (found? name).map Prod.snd).map
        (ofRecord kind) := by
  rw [toOption_decode_object]
  congr 1
  refine StyleRecord.read?_congr fun field hfield => ?_
  rw [hkept.lastEntryFor? hfound hfield]

/-- **Of the keys of a payload that are equal up to case, the last one counts.**  The payload is
read, or fails, as the one that keeps the last entry for each field.  The one that keeps the entry
of the shared look-up instead has the same outcome exactly if the two look-ups give every field the
same value, or if each of them leaves some field without one. -/
theorem decode_kept {kind : StyleKind} {entries last shared : Entries Json}
    (hlast : kind.Keeps entries.lastEntryFor? last)
    (hshared : kind.Keeps entries.entryFor? shared) :
    (decode kind (.object entries)).toOption = (decode kind (.object last)).toOption ∧
      ((decode kind (.object entries)).toOption = (decode kind (.object shared)).toOption ↔
        (∀ field ∈ kind.fields, field.read? ((entries.lastEntryFor? field.name).map Prod.snd) =
            field.read? (entries.find? field.name)) ∨
          (∃ field ∈ kind.fields,
              field.read? ((entries.lastEntryFor? field.name).map Prod.snd) = none) ∧
            ∃ field ∈ kind.fields, field.read? (entries.find? field.name) = none) := by
  constructor
  · rw [toOption_decode_object, toOption_decode_kept hlast Entries.foldCase_of_lastEntryFor?]
  · rw [toOption_decode_object, toOption_decode_kept hshared Entries.foldCase_of_entryFor?,
      (Option.map_injective (ofRecord_injective kind)).eq_iff]
    simp only [Entries.map_snd_entryFor?]
    exact StyleRecord.read?_eq_iff

/-- A padding with two keys for its left side has the value of the later one, although the one
before it is the exact key. -/
theorem decode_kept_padding :
    let entries : Entries Json := [("TOP", .ofInt 1), ("left", .ofInt 2), ("LEFT", .ofInt 4)]
    let last : Entries Json := [("TOP", .ofInt 1), ("LEFT", .ofInt 4)]
    let shared : Entries Json := [("TOP", .ofInt 1), ("left", .ofInt 2)]
    StyleKind.padding.Keeps entries.lastEntryFor? last ∧
      StyleKind.padding.Keeps entries.entryFor? shared ∧
      (decode .padding (.object entries)).toOption = (decode .padding (.object last)).toOption ∧
      (decode .padding (.object entries)).toOption ≠
        (decode .padding (.object shared)).toOption := by
  intro entries last shared
  have hlast : StyleKind.padding.Keeps entries.lastEntryFor? last :=
    StyleKind.keeps_filterMap .padding entries.lastEntryFor?
  have hshared : StyleKind.padding.Keeps entries.entryFor? shared :=
    StyleKind.keeps_filterMap .padding entries.entryFor?
  obtain ⟨heq, hiff⟩ := decode_kept hlast hshared
  refine ⟨hlast, hshared, heq, fun hkept => ?_⟩
  rcases hiff.1 hkept with hsame | ⟨⟨field, hfield, hnone⟩, -⟩
  · have hleft := hsame ⟨"left", .number, some (.zero false)⟩ (by simp)
    exact absurd hleft (by decide +kernel)
  · revert field
    decide +kernel

/-- Without an exact key the first of two keys is the one to look up, and the second one counts. -/
theorem laterKey_overwrites :
    let entries : Entries Json := [("VALUE", .ofInt 1), ("Value", .ofInt 2)]
    StyleKind.width.Keeps entries.entryFor? [("VALUE", .ofInt 1)] ∧
      (decode .width (.object [("VALUE", .ofInt 1)])).toOption = some (.width (.ofInt 1)) ∧
      (decode .width (.object entries)).toOption = some (.width (.ofInt 2)) ∧
      Style.width (.ofInt 1) ≠ .width (.ofInt 2) := by
  intro entries
  have hkeeps : StyleKind.width.Keeps entries.entryFor? [("VALUE", .ofInt 1)] :=
    StyleKind.keeps_filterMap .width entries.entryFor?
  exact ⟨hkeeps, by decide +kernel, by decide +kernel, by decide +kernel⟩

end Style

end Bindery
