import Bindery.Json.Basic
import Bindery.Proofs.Entries
import Bindery.Proofs.Text.Lowercase

/-!
# Models with other keys

Two models can hold the same data for a template and still differ: in entries that nothing asks for,
and in the case of their keys.  Both are said by bringing the two models to one form, in which every
key of every object is replaced or dropped (`Json.rekey`).

* `Json.restrict`: only the entries whose key is one of some names up to the case of ASCII letters.
* `Json.foldKeys`: every key with its ASCII capitals made small.

What replacing keys does to a look-up does not depend on what is looked for
(`Json.find?_rekeyEntries`): if a test of the new keys accepts exactly those whose old key passes
another test, then the two tests find the same entry.  A look-up is two searches, one for the exact
key and one for a key that is equal up to case.  Restricting keeps the outcome of both for the names
that it keeps (`Json.find?_restrict`).  Folding makes both searches into the one up to case
(`Json.find?_foldKeys`), so it keeps the look-up of an object in which no two keys are equal up to
case, and loses which key was the exact one in an object in which some are.
-/

namespace Bindery

namespace Entries

variable {α : Type} {entries : Entries α}

/-- **If no two keys are equal up to case**, the exact key is the only one that could be found up to
case. -/
theorem find?_eq_getIgnoringCase? (hkeys : (entries.map fun entry => foldCase entry.1).Nodup)
    (key : String) : entries.find? key = entries.getIgnoringCase? key := by
  rw [find?]
  cases hexact : entries.get? key with
  | none => rfl
  | some value =>
    obtain ⟨⟨k, v⟩, hfound, rfl⟩ := Option.map_eq_some_iff.1 hexact
    have hmem : (k, v) ∈ entries := List.mem_of_find?_eq_some hfound
    have hkey : k = key := by simpa using List.find?_some hfound
    have honly := find?_of_nodup (fun entry : String × α => foldCase entry.1) hkeys hmem
    rw [getIgnoringCase?, ← hkey, honly]
    rfl

/-- What is found is the value of an entry. -/
theorem mem_of_find? {key : String} {value : α} (h : entries.find? key = some value) :
    value ∈ entries.map Prod.snd := by
  rcases Option.or_eq_some_iff.1 h with hfound | ⟨-, hfound⟩
  all_goals
    obtain ⟨entry, hentry, rfl⟩ := Option.map_eq_some_iff.1 hfound
    exact List.mem_map_of_mem (List.mem_of_find?_eq_some hentry)

end Entries

namespace Json

section Rekey

variable (f : String → Option String)

mutual

/-- The value with each key of its objects replaced, at every depth.  An entry whose key has no
replacement is dropped with all that it holds. -/
def rekey : Json → Json
  | .null => .null
  | .bool value => .bool value
  | .number value => .number value
  | .string value => .string value
  | .array items => .array (rekeyItems items)
  | .object entries => .object (rekeyEntries entries)

/-- The items of an array with their keys replaced. -/
def rekeyItems : List Json → List Json
  | [] => []
  | item :: items => rekey item :: rekeyItems items

/-- The entries of an object with their keys replaced. -/
def rekeyEntries : List (String × Json) → List (String × Json)
  | [] => []
  | (key, value) :: entries =>
    match f key with
    | none => rekeyEntries entries
    | some key' => (key', rekey value) :: rekeyEntries entries

end

theorem rekeyItems_eq_map (items : List Json) : rekeyItems f items = items.map (rekey f) := by
  induction items with
  | nil => rfl
  | cons item items ih => rw [rekeyItems, ih, List.map_cons]

/-- **Looking among replaced keys.**  If `q` accepts a new key exactly if `p` accepts the old one,
then both find the same entry. -/
theorem find?_rekeyEntries {p q : String → Bool} (h : ∀ key, (f key).any q = p key)
    (entries : List (String × Json)) :
    ((rekeyEntries f entries).find? fun entry => q entry.1).map Prod.snd =
      ((entries.find? fun entry => p entry.1).map Prod.snd).map (rekey f) := by
  induction entries with
  | nil => rfl
  | cons entry entries ih =>
    obtain ⟨key, value⟩ := entry
    have hkey := h key
    rw [rekeyEntries, List.find?_cons]
    cases hreplaced : f key with
    | none =>
      -- a key that is dropped is not looked for
      rw [hreplaced] at hkey
      rw [← hkey]
      exact ih
    | some key' =>
      rw [hreplaced, Option.any_some] at hkey
      rw [← hkey, List.find?_cons]
      by_cases hfound : q key' = true
      · rw [hfound]
        rfl
      · rw [Bool.not_eq_true] at hfound
        rw [hfound]
        exact ih

end Rekey

/-! ## Keeping some names -/

/-- Whether a key is one of the names up to the case of ASCII letters. -/
def isNamed (names : List String) (key : String) : Bool :=
  names.any fun name => foldCase key == foldCase name

/-- Only the entries whose key is one of the names, at every depth. -/
def restrict (names : List String) : Json → Json :=
  rekey (Option.guard (isNamed names))

section Restrict

variable {names : List String} {name : String}

theorem isNamed_of_foldCase_eq (hname : name ∈ names) {key : String}
    (h : foldCase key = foldCase name) : isNamed names key = true :=
  List.any_eq_true.2 ⟨name, hname, beq_iff_eq.2 h⟩

/-- **Restricting keeps the look-up of a name.** -/
theorem find?_restrict (hname : name ∈ names) (entries : List (String × Json)) :
    Entries.find? (rekeyEntries (Option.guard (isNamed names)) entries) name =
      (Entries.find? entries name).map (restrict names) := by
  have hkept {q : String → Bool} (hq : ∀ key, q key = true → foldCase key = foldCase name)
      (key : String) : (Option.guard (isNamed names) key).any q = q key := by
    rw [Option.guard]
    by_cases hnamed : isNamed names key = true
    · rw [if_pos hnamed, Option.any_some]
    · rw [if_neg hnamed, Option.any_none, eq_comm, Bool.eq_false_iff]
      intro hkey
      exact hnamed (isNamed_of_foldCase_eq hname (hq key hkey))
  have hexact := find?_rekeyEntries (Option.guard (isNamed names))
    (hkept (q := fun key => key == name) fun key hkey => by rw [eq_of_beq hkey]) entries
  have hfold := find?_rekeyEntries (Option.guard (isNamed names))
    (hkept (q := fun key => foldCase key == foldCase name) fun key hkey => eq_of_beq hkey) entries
  rw [Entries.find?, Entries.get?, Entries.getIgnoringCase?, hexact, hfold, Entries.find?,
    Option.map_or]
  rfl

end Restrict

/-! ## Folding keys -/

/-- A key with its ASCII capitals made small, as a key. -/
def foldKey (key : String) : String :=
  String.ofList (foldCase key)

/-- Every key with its ASCII capitals made small, at every depth. -/
def foldKeys : Json → Json :=
  rekey fun key => some (foldKey key)

/-- Values in which no object has two keys that are equal up to the case of ASCII letters. -/
inductive DistinctKeys : Json → Prop
  | null : DistinctKeys .null
  | bool (value : Bool) : DistinctKeys (.bool value)
  | number (value : Number) : DistinctKeys (.number value)
  | string (value : String) : DistinctKeys (.string value)
  | array {items : List Json} (h : ∀ item ∈ items, DistinctKeys item) : DistinctKeys (.array items)
  | object {entries : List (String × Json)}
      (hkeys : (entries.map fun entry => foldCase entry.1).Nodup)
      (h : ∀ value ∈ entries.map Prod.snd, DistinctKeys value) : DistinctKeys (.object entries)

theorem foldCase_foldKey (key : String) : foldCase (foldKey key) = foldCase key := by
  rw [foldCase, foldKey, String.toList_ofList, foldCase, List.map_map]
  exact List.map_congr_left fun c _ =>
    Text.apply_toLower (f := Char.toLower) (by decide) c

theorem foldKey_eq_iff {key name : String} :
    foldKey key = foldKey name ↔ foldCase key = foldCase name :=
  String.ofList_inj

/-- **Looking among folded keys** is looking up to case. -/
theorem find?_foldKeys (entries : List (String × Json)) (name : String) :
    Entries.find? (rekeyEntries (fun key => some (foldKey key)) entries) (foldKey name) =
      (Entries.getIgnoringCase? entries name).map foldKeys := by
  have hexact := find?_rekeyEntries (fun key => some (foldKey key))
    (p := fun key => foldCase key == foldCase name) (q := fun key => key == foldKey name)
    (fun key => by simp [foldKey_eq_iff]) entries
  have hfold := find?_rekeyEntries (fun key => some (foldKey key))
    (p := fun key => foldCase key == foldCase name)
    (q := fun key => foldCase key == foldCase (foldKey name))
    (fun key => by simp [foldCase_foldKey]) entries
  rw [Entries.find?, Entries.get?, Entries.getIgnoringCase?, hexact, hfold, Option.or_self]
  rfl

/-- Folding leaves what the keys are up to case. -/
theorem map_foldCase_foldKeys (entries : List (String × Json)) :
    (rekeyEntries (fun key => some (foldKey key)) entries).map (fun entry => foldCase entry.1) =
      entries.map fun entry => foldCase entry.1 := by
  induction entries with
  | nil => rfl
  | cons entry entries ih =>
    obtain ⟨key, value⟩ := entry
    rw [rekeyEntries, List.map_cons, List.map_cons, ih, foldCase_foldKey]

end Json

end Bindery
