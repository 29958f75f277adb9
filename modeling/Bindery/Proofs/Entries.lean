import Bindery.Entries
import Mathlib.Data.List.Induction
import Mathlib.Data.List.Nodup

/-!
# Looking up what was written

An object is written from a list of *slots*: every key that may occur, with its value if it has one.
A slot without a value leaves no entry (`Entries.written`).

Looking up a key falls back to the first key that is equal up to case, so a slot without a value
could be answered by the entry of another slot.  `Entries.find?_written` excludes that: if the keys
of the slots differ even up to case, each key is answered by its own slot, present or absent.

Entries may also be written one after the other under keys that repeat.  Then the last value of a
key is the one that is found (`Entries.get?_ofList`).

The module begins with what holds of lists with keys at large: an item is found by its key if the
keys differ, and keys that may repeat are told apart by their first occurrences.
-/

namespace Bindery

/-- In a list whose keys differ, an item is found by its key. -/
theorem find?_of_nodup {α κ : Type} [BEq κ] [LawfulBEq κ] (key : α → κ) {items : List α} {item : α}
    (hkeys : (items.map key).Nodup) (hmem : item ∈ items) :
    items.find? (fun other => key other == key item) = some item := by
  induction items with
  | nil => exact absurd hmem List.not_mem_nil
  | cons first items ih =>
    rw [List.map_cons, List.nodup_cons] at hkeys
    rcases List.mem_cons.1 hmem with rfl | hmem
    · rw [List.find?_cons, beq_self_eq_true]
    · have hne : (key first == key item) = false := by
        rw [beq_eq_false_iff_ne]
        intro heq
        exact hkeys.1 (heq ▸ List.mem_map_of_mem hmem)
      rw [List.find?_cons, hne]
      exact ih hkeys.2 hmem

/-- The first item is found if it has the key. -/
theorem find?_cons_key {α κ : Type} [DecidableEq κ] (key : α → κ) (item : α) (items : List α)
    (k : κ) : List.find? (fun other => key other == k) (item :: items) =
      if key item = k then some item else items.find? fun other => key other == k := by
  rw [List.find?_cons]
  by_cases h : key item = k
  · rw [if_pos h, beq_iff_eq.2 h]
  · rw [if_neg h, beq_eq_false_iff_ne.2 h]

/-! ## First occurrences -/

section EraseDups

variable {α : Type} [BEq α] [LawfulBEq α]

/-- What is added at the end of a list is a first occurrence if it is new. -/
theorem eraseDups_append_singleton (items : List α) (item : α) :
    (items ++ [item]).eraseDups =
      if item ∈ items then items.eraseDups else items.eraseDups ++ [item] := by
  rw [List.eraseDups_append]
  split
  · next hold => simp [List.removeAll, hold]
  · next hnew => simp [List.removeAll, hnew, List.eraseDups_cons]

theorem nodup_eraseDups (items : List α) : items.eraseDups.Nodup := by
  induction items using List.reverseRecOn with
  | nil => exact List.nodup_nil
  | append_singleton items item ih =>
    rw [eraseDups_append_singleton]
    split
    · exact ih
    · next hnew =>
      rw [← List.mem_eraseDups] at hnew
      rw [← List.concat_eq_append]
      exact ih.concat hnew

end EraseDups

namespace Entries

variable {α β : Type}

/-- With different keys, an entry is found under its key. -/
theorem get?_of_mem {entries : Entries α} {key : String} {value : α}
    (hkeys : (entries.map Prod.fst).Nodup) (hmem : (key, value) ∈ entries) :
    entries.get? key = some value := by
  rw [get?, find?_of_nodup Prod.fst hkeys hmem]
  rfl

/-- A key that is not there has no value. -/
theorem get?_eq_none {entries : Entries α} {key : String} (h : key ∉ entries.map Prod.fst) :
    entries.get? key = none := by
  rw [get?, Option.map_eq_none_iff, List.find?_eq_none]
  intro entry hentry heq
  exact h (List.mem_map.2 ⟨entry, hentry, eq_of_beq heq⟩)

/-- Of two lists of entries, the first one answers first. -/
theorem get?_append (entries more : Entries α) (key : String) :
    get? (entries ++ more) key = (entries.get? key).or (more.get? key) := by
  rw [get?, List.find?_append, Option.map_or, get?, get?]

/-! ## One entry among others -/

section Among

variable {before after : Entries α} {key name : String}

/-- The entries may be given other values before looking up or after. -/
theorem find?_map (f : α → β) (entries : Entries α) (name : String) :
    find? (entries.map fun entry => (entry.1, f entry.2)) name = (entries.find? name).map f := by
  have hsearch (p : String → Bool) :
      (List.find? (fun entry => p entry.1) (entries.map fun entry => (entry.1, f entry.2))).map
          Prod.snd =
        ((List.find? (fun entry => p entry.1) entries).map Prod.snd).map f := by
    rw [List.find?_map, Option.map_map, Option.map_map]
    rfl
  rw [find?, find?, Option.map_or]
  exact congr (congrArg Option.or (hsearch (· == name)))
    (hsearch fun key => foldCase key == foldCase name)

/-- **An entry under another key does not matter** for a name. -/
theorem find?_of_ne (value : α) (h : foldCase key ≠ foldCase name) :
    find? (before ++ (key, value) :: after) name = find? (before ++ after) name := by
  have hsearch (p : String → Bool) (hkey : p key = false) :
      List.find? (fun entry => p entry.1) (before ++ (key, value) :: after) =
        List.find? (fun entry => p entry.1) (before ++ after) := by
    rw [List.find?_append, List.find?_append, List.find?_cons, hkey]
  have hexact : (key == name) = false := beq_eq_false_iff_ne.2 fun heq => h (congrArg foldCase heq)
  have hfolded : (foldCase key == foldCase name) = false := beq_eq_false_iff_ne.2 h
  rw [find?, find?]
  exact congr
    (congrArg Option.or (congrArg (Option.map Prod.snd) (hsearch (· == name) hexact)))
    (congrArg (Option.map Prod.snd) (hsearch (foldCase · == foldCase name) hfolded))

theorem find?_replace_of_ne (value value' : α) (h : foldCase key ≠ foldCase name) :
    find? (before ++ (key, value') :: after) name = find? (before ++ (key, value) :: after) name :=
  (find?_of_ne value' h).trans (find?_of_ne value h).symm

/-- A value may be replaced by one that counts as the same. -/
theorem map_find?_replace {f : α → β} {value value' : α} (h : f value' = f value) :
    (find? (before ++ (key, value') :: after) name).map f =
      (find? (before ++ (key, value) :: after) name).map f := by
  rw [← find?_map, ← find?_map, List.map_append, List.map_append, List.map_cons, List.map_cons, h]

end Among

/-! ## Writing one entry after the other -/

theorem insert_of_new {entries : Entries α} {key : String} (value : α)
    (h : key ∉ entries.map Prod.fst) : entries.insert key value = entries ++ [(key, value)] := by
  induction entries with
  | nil => rfl
  | cons entry entries ih =>
    obtain ⟨k, v⟩ := entry
    rw [List.map_cons, List.mem_cons, not_or] at h
    rw [insert_cons, if_neg (Ne.symm h.1), ih h.2, List.cons_append]

/-- Entries with different keys are kept as they are. -/
theorem ofList_of_nodup {entries : List (String × α)} (h : (entries.map Prod.fst).Nodup) :
    ofList entries = entries := by
  -- what is written so far is a first part of the list, and every further key is new
  have hfold (written : Entries α) (hall : ((written ++ entries).map Prod.fst).Nodup) :
      entries.foldl (fun written entry => written.insert entry.1 entry.2) written =
        written ++ entries := by
    clear h
    induction entries generalizing written with
    | nil => simp
    | cons entry entries ih =>
      have hnew : entry.1 ∉ written.map Prod.fst := by
        intro hmem
        rw [List.map_append, List.nodup_append] at hall
        exact hall.2.2 _ hmem _ List.mem_cons_self rfl
      rw [List.append_cons] at hall
      rw [List.foldl_cons, insert_of_new _ hnew, ih _ hall, ← List.append_cons]
  exact hfold [] h

theorem mem_map_fst_insert {entries : Entries α} {key name : String} {value : α} :
    name ∈ (entries.insert key value).map Prod.fst ↔ name = key ∨ name ∈ entries.map Prod.fst := by
  induction entries with
  | nil => simp
  | cons entry entries ih =>
    obtain ⟨k, v⟩ := entry
    rw [insert_cons]
    split
    · next heq => simp [heq]
    · rw [List.map_cons, List.map_cons, List.mem_cons, List.mem_cons, ih, or_left_comm]

theorem nodup_insert {entries : Entries α} (h : (entries.map Prod.fst).Nodup) (key : String)
    (value : α) : ((entries.insert key value).map Prod.fst).Nodup := by
  induction entries with
  | nil => simp
  | cons entry entries ih =>
    obtain ⟨k, v⟩ := entry
    rw [List.map_cons, List.nodup_cons] at h
    rw [insert_cons]
    split
    · next heq => exact List.nodup_cons.2 ⟨heq ▸ h.1, h.2⟩
    · next hne =>
      rw [List.map_cons, List.nodup_cons, mem_map_fst_insert, not_or]
      exact ⟨⟨hne, h.1⟩, ih h.2⟩

theorem get?_cons (entry : String × α) (entries : Entries α) (name : String) :
    get? (entry :: entries) name = if entry.1 = name then some entry.2 else entries.get? name := by
  rw [get?, find?_cons_key Prod.fst, apply_ite (Option.map Prod.snd)]
  rfl

/-- Writing a key changes what is found under this key. -/
theorem get?_insert (entries : Entries α) (key name : String) (value : α) :
    (entries.insert key value).get? name =
      if key = name then some value else entries.get? name := by
  induction entries with
  | nil => exact get?_cons (key, value) [] name
  | cons entry entries ih =>
    obtain ⟨k, v⟩ := entry
    rw [insert_cons]
    by_cases hplace : k = key
    · rw [if_pos hplace, get?_cons, get?_cons, hplace]
      split <;> rfl
    · rw [if_neg hplace, get?_cons, get?_cons, ih]
      by_cases hname : key = name
      · have hother : k ≠ name := hname ▸ hplace
        simp only [if_pos hname, if_neg hother]
      · simp only [if_neg hname]

theorem ofList_append_singleton (entries : List (String × α)) (entry : String × α) :
    ofList (entries ++ [entry]) = (ofList entries).insert entry.1 entry.2 := by
  rw [ofList, List.foldl_append, List.foldl_cons, List.foldl_nil, ofList]

/-- What was written has different keys. -/
theorem nodup_ofList (entries : List (String × α)) : ((ofList entries).map Prod.fst).Nodup := by
  induction entries using List.reverseRecOn with
  | nil => exact List.nodup_nil
  | append_singleton entries entry ih =>
    rw [ofList_append_singleton]
    exact nodup_insert ih entry.1 entry.2

/-- **Under each key the last value that was written** is found. -/
theorem get?_ofList (entries : List (String × α)) (name : String) :
    (ofList entries).get? name = get? entries.reverse name := by
  induction entries using List.reverseRecOn with
  | nil => rfl
  | append_singleton entries entry ih =>
    rw [ofList_append_singleton, get?_insert, ih, List.reverse_append, List.reverse_singleton,
      List.singleton_append, get?_cons]

/-! ## Slots -/

/-- The entries of the slots that have a value. -/
def written (slots : List (String × Option α)) : Entries α :=
  slots.filterMap fun (key, value) => value.map fun value => (key, value)

@[simp] theorem written_nil : written ([] : List (String × Option α)) = [] := rfl

@[simp] theorem written_cons_none (key : String) (slots : List (String × Option α)) :
    written ((key, none) :: slots) = written slots := rfl

@[simp] theorem written_cons_some (key : String) (value : α) (slots : List (String × Option α)) :
    written ((key, some value) :: slots) = (key, value) :: written slots := rfl

@[simp] theorem written_append (before after : List (String × Option α)) :
    written (before ++ after) = written before ++ written after :=
  List.filterMap_append

theorem mem_written {slots : List (String × Option α)} {key : String} {value : α} :
    (key, value) ∈ written slots ↔ (key, some value) ∈ slots := by
  rw [written, List.mem_filterMap]
  constructor
  · rintro ⟨⟨k, v⟩, hmem, heq⟩
    obtain ⟨w, rfl, hpair⟩ := Option.map_eq_some_iff.1 heq
    cases hpair
    exact hmem
  · intro hmem
    exact ⟨_, hmem, rfl⟩

/-- The entries of slots whose values are replaced. -/
theorem written_map (f : α → β) (slots : List (String × Option α)) :
    written (slots.map fun slot => (slot.1, slot.2.map f)) =
      (written slots).map fun entry => (entry.1, f entry.2) := by
  induction slots with
  | nil => rfl
  | cons slot slots ih =>
    obtain ⟨key, _ | value⟩ := slot
    · exact ih
    · exact congrArg _ ih

theorem map_fst_written_sublist (slots : List (String × Option α)) :
    ((written slots).map Prod.fst).Sublist (slots.map Prod.fst) := by
  induction slots with
  | nil => exact .slnil
  | cons slot slots ih =>
    obtain ⟨key, _ | value⟩ := slot
    · exact ih.cons key
    · exact ih.cons_cons key

/-- **Each key is answered by its own slot**, if the keys differ up to case. -/
theorem find?_written {slots : List (String × Option α)} {key : String} {value : Option α}
    (hkeys : (slots.map fun slot => foldCase slot.1).Nodup) (hmem : (key, value) ∈ slots) :
    (written slots).find? key = value := by
  have hexact : (slots.map Prod.fst).Nodup := by
    apply List.Nodup.of_map foldCase
    rwa [List.map_map]
  cases value with
  | some value =>
    rw [find?, get?_of_mem (hexact.sublist (map_fst_written_sublist slots)) (mem_written.2 hmem)]
    rfl
  | none =>
    -- an entry that answers for the key comes from a slot with a value, so from another one
    have hother : ∀ entry ∈ written slots, foldCase entry.1 ≠ foldCase key := by
      rintro ⟨k, v⟩ hentry heq
      have := List.inj_on_of_nodup_map hkeys (mem_written.1 hentry) hmem heq
      simp at this
    have hnot : key ∉ (written slots).map Prod.fst := by
      intro h
      obtain ⟨entry, hentry, rfl⟩ := List.mem_map.1 h
      exact hother entry hentry rfl
    have hfold : (written slots).getIgnoringCase? key = none := by
      rw [getIgnoringCase?, Option.map_eq_none_iff, List.find?_eq_none]
      intro entry hentry heq
      exact hother entry hentry (eq_of_beq heq)
    rw [find?, get?_eq_none hnot, hfold]
    rfl

end Entries

end Bindery
