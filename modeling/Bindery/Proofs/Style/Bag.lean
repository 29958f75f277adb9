import Bindery.Proofs.Attribute.Scalar
import Bindery.Proofs.Registry
import Bindery.Proofs.Style.Merge

/-!
# Bags of styles are read back

The payload of a style is the object of its fields, and a bag is the object of the payloads of a
list of styles under their tags.

* `decode_encode`: a style is read back from its payload.  The names of its fields differ and are
  already in small letters, so making the keys small changes nothing, and every field is found.
* `decodeBag_encodeBag`: a list with one style of each kind is read back from its bag, in the order
  in which it was written.
-/

namespace Bindery

/-! ## Fields -/

namespace StyleRecord

theorem map_fst_encode (fields : List StyleField) (record : StyleRecord fields) :
    (encode fields record).map Prod.fst = fields.map StyleField.name := by
  induction fields with
  | nil => rfl
  | cons field fields ih => rw [encode, List.map_cons, List.map_cons, ih]

/-- The fields at the end of a payload are found, if the names differ. -/
theorem ofEntries_append (before : Entries Json) (fields : List StyleField)
    (record : StyleRecord fields)
    (hnames : (before.map Prod.fst ++ fields.map StyleField.name).Nodup)
    (hread : ∀ field ∈ fields, field.scalar.WellFormed = true) :
    ofEntries fields (before ++ encode fields record) = .ok record := by
  induction fields generalizing before with
  | nil => rfl
  | cons field fields ih =>
    obtain ⟨value, record⟩ := record
    rw [List.forall_mem_cons] at hread
    have hfound : Entries.get? (before ++ encode (field :: fields) (value, record)) field.name =
        some (field.scalar.encode value) := by
      apply Entries.get?_of_mem
      · rw [List.map_append, map_fst_encode]
        exact hnames
      · exact List.mem_append_right _ List.mem_cons_self
    have hrest : ofEntries fields (before ++ encode (field :: fields) (value, record)) =
        .ok record := by
      rw [encode, List.append_cons]
      refine ih _ record ?_ hread.2
      simpa using hnames
    rw [ofEntries, hfound, hrest]
    simp only [Scalar.decode_encode _ hread.1]
    rfl

/-- A field that was written is no fault. -/
theorem firstFault?_encode {all : List StyleField} (hnames : (all.map StyleField.name).Nodup)
    (hread : ∀ field ∈ all, field.scalar.WellFormed = true) (fields : List StyleField)
    (record : StyleRecord fields) (hfields : ∀ field ∈ fields, field ∈ all) :
    firstFault? all (encode fields record) = none := by
  induction fields with
  | nil => rfl
  | cons field fields ih =>
    rw [List.forall_mem_cons] at hfields
    obtain ⟨value, record⟩ := record
    have hfound := find?_of_nodup StyleField.name hnames hfields.1
    have hrest := ih record hfields.2
    rw [firstFault?] at hrest ⊢
    rw [encode, List.findSome?_cons, hrest]
    simp only [hfound, Scalar.decode_encode _ (hread field hfields.1)]

end StyleRecord

namespace StyleKind

theorem nodup_fields (kind : StyleKind) : (kind.fields.map StyleField.name).Nodup := by
  cases kind <;> decide

theorem wellFormed_fields (kind : StyleKind) :
    ∀ field ∈ kind.fields, field.scalar.WellFormed = true := by
  cases kind <;> simp [Scalar.WellFormed]

theorem lowercase_fields (kind : StyleKind) :
    ∀ name ∈ kind.fields.map StyleField.name, Text.lowercase name = name := by
  cases kind <;> decide +kernel

end StyleKind

namespace Style

/-! ## Payloads -/

/-- Keys that are small and differ are kept. -/
theorem smallKeys_of_lowercase {entries : Entries Json}
    (hsmall : ∀ key ∈ entries.map Prod.fst, Text.lowercase key = key)
    (hkeys : (entries.map Prod.fst).Nodup) : smallKeys entries = entries := by
  have hsame : entries.map (fun entry => (Text.lowercase entry.1, entry.2)) = entries := by
    conv_rhs => rw [← List.map_id entries]
    apply List.map_congr_left
    rintro ⟨key, value⟩ hentry
    simp only [hsmall key (List.mem_map.2 ⟨_, hentry, rfl⟩), id]
  rw [smallKeys, hsame, Entries.ofList_of_nodup hkeys]

/-- **A style is read back from its payload.** -/
theorem decode_encode (style : Style) : decode style.kind style.encode = .ok style := by
  have hnames := style.kind.nodup_fields
  have hread := style.kind.wellFormed_fields
  have hsmall : smallKeys (StyleRecord.encode style.kind.fields style.record) =
      StyleRecord.encode style.kind.fields style.record := by
    apply smallKeys_of_lowercase
    · rw [StyleRecord.map_fst_encode]
      exact style.kind.lowercase_fields
    · rwa [StyleRecord.map_fst_encode]
  have hfault := StyleRecord.firstFault?_encode hnames hread _ style.record fun _ h => h
  have hrecord := StyleRecord.ofEntries_append [] _ style.record (by simpa using hnames) hread
  rw [List.nil_append] at hrecord
  simp only [decode, encode, decodeRecord, hsmall, hfault, hrecord]
  exact congrArg Except.ok (ofRecord_record style)

/-! ## Bags -/

/-- The entries of a bag give the styles in their order. -/
theorem decodeEntries_map (owner : String) (styles : List Style) :
    decodeEntries owner (styles.map fun style => (tag style.kind, style.encode)) = .ok styles := by
  induction styles with
  | nil => rfl
  | cons style styles ih =>
    simp only [List.map_cons, decodeEntries, Registry.resolve?_styles_tag, decode_encode, ih]
    rfl

/-- **A list with one style of each kind is read back from its bag.** -/
theorem decodeBag_map {styles : List Style} (owner : String) (h : Distinct styles) :
    decodeBag owner (styles.map fun style => (tag style.kind, style.encode)) = .ok styles := by
  rw [decodeBag, decodeEntries_map]
  exact congrArg Except.ok (dedup_of_distinct h)

end Style

end Bindery
