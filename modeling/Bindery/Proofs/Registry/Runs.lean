import Mathlib.Data.Finset.Card
import Bindery.Proofs.Registry
import Bindery.Proofs.Text.Lowercase

/-!
# Registries over whole runs

Types may be registered in any order and under any names, several of them with one tag.  Which types
are taken in and how many, and what a name resolves to, is said here from the calls alone
(`Registry.resolves_runs`).

A name is looked up by its small form.  The tag of a document type is made another way, by taking
off the mark before the letters are made small, and only before an ASCII capital.  The two ways
agree because the small form of what begins with the capital does not depend on the mark before it.
So the small form of a name is its tag, or else its tag after a small mark
(`Family.lowercase_eq`).  Both are tried, and so every type that was registered is found under its
own name.  It may not find itself there, as the small form of one name may be the tag of another.
-/

namespace Bindery

/-! ## Tags and small forms -/

/-- A mark is taken off only before an ASCII capital. -/
theorem withoutMark_cases (name : List Char) :
    withoutMark name = name ∨
      ∃ c rest, c.isUpper = true ∧ name = 'D' :: 'o' :: 'c' :: c :: rest ∧
        withoutMark name = c :: rest := by
  unfold withoutMark
  split
  · next c rest =>
    split
    · next hupper => exact .inr ⟨c, rest, hupper, rfl, rfl⟩
    · exact .inl rfl
  · exact .inl rfl

/-- **The small form of a type name is its tag**, or else the type is a document type with a mark,
and the small form is the tag after a small mark. -/
theorem Family.lowercase_eq (family : Family) (typeName : String) :
    Text.lowercase typeName = family.tag typeName ∨
      family = .document ∧ Text.lowercase typeName = "doc" ++ family.tag typeName := by
  cases family with
  | template | style => exact .inl rfl
  | document =>
    obtain hsame | ⟨c, rest, hupper, hname, hrest⟩ := withoutMark_cases typeName.toList
    · rw [tag, hsame]
      exact .inl rfl
    · refine .inr ⟨rfl, ?_⟩
      have hsmall : Text.lowerAfter [] ('D' :: 'o' :: 'c' :: c :: rest) =
          ['d', 'o', 'c'] ++ Text.lowerAfter [] (c :: rest) := by
        rw [← Text.lowerAfter_of_isUpper hupper ['c', 'o', 'D']]
        rfl
      rw [tag, hrest, Text.lowercase, hname, hsmall, ← String.toList_inj]
      simp

-- the last sigma ends a word with the mark and without it
example : Text.lowercase "DocAΣ" = "docaς" ∧ Family.document.tag "DocAΣ" = "aς" := by
  decide +kernel

namespace Registry

variable {α : Type}

theorem withoutSmallMark?_eq_some {tag rest : List Char} :
    withoutSmallMark? tag = some rest ↔ tag = 'd' :: 'o' :: 'c' :: rest := by
  unfold withoutSmallMark?
  split
  · simp
  · next hmark =>
    simp only [reduceCtorEq, false_iff]
    exact fun heq => hmark rest heq

/-- What a name resolves to, from what stands under tags. -/
theorem resolve?_eq_some {registry : Registry α} {name : String} {value : α} :
    registry.resolve? name = some value ↔
      registry.get? (Text.lowercase name) = some value ∨
        registry.family = .document ∧ registry.get? (Text.lowercase name) = none ∧
          ∃ rest, Text.lowercase name = "doc" ++ rest ∧ registry.get? rest = some value := by
  rw [resolve?]
  cases registry.get? (Text.lowercase name) with
  | some found => simp
  | none =>
    cases registry.family with
    | template | style => simp
    | document =>
      have hmarked (rest : List Char) : (Text.lowercase name).toList = 'd' :: 'o' :: 'c' :: rest ↔
          Text.lowercase name = "doc" ++ String.ofList rest := by
        simp [← String.toList_inj]
      simp only [Option.bind_eq_some_iff, withoutSmallMark?_eq_some, hmarked, reduceCtorEq,
        false_or, true_and]
      constructor
      · rintro ⟨rest, hrest, hvalue⟩
        exact ⟨_, hrest, hvalue⟩
      · rintro ⟨rest, hrest, hvalue⟩
        exact ⟨rest.toList, by rwa [String.ofList_toList], by rwa [String.ofList_toList]⟩

/-! ## A run of calls -/

/-- Whether each type is taken in when types are registered one after the other. -/
def answers (registry : Registry α) : List (String × α) → List Bool
  | [] => []
  | type :: types =>
    (!registry.contains type.1) :: (registry.register type.1 type.2).answers types

/-- The answer to a call is found in the registry of the calls before it. -/
theorem getElem?_answers (registry : Registry α) (types : List (String × α)) (i : ℕ) :
    (registry.answers types)[i]? =
      types[i]?.map fun type => !(registry.registerAll (types.take i)).contains type.1 := by
  induction types generalizing registry i with
  | nil => rfl
  | cons type types ih =>
    cases i with
    | zero => rfl
    | succ i => exact ih (registry.register type.1 type.2) i

theorem contains_ofTypes {family : Family} {types : List (String × α)} {typeName : String} :
    (ofTypes family types).contains typeName = true ↔
      family.tag typeName ∈ (tagged family types).map Prod.fst := by
  rw [contains, isSome_get?_iff, map_fst_entries_ofTypes, family_ofTypes, List.mem_eraseDups]

/-- There are as many entries as different tags. -/
theorem size_ofTypes (family : Family) (types : List (String × α)) :
    (ofTypes family types).size = ((tagged family types).map Prod.fst).toFinset.card := by
  have hsame : ((tagged family types).map Prod.fst).eraseDups.toFinset =
      ((tagged family types).map Prod.fst).toFinset := by
    ext tag
    rw [List.mem_toFinset, List.mem_toFinset, List.mem_eraseDups]
  rw [← hsame, List.toFinset_card_of_nodup (nodup_eraseDups _), ← map_fst_entries_ofTypes,
    List.length_map, size]

/-- **A registered type is found under its name**, in any case of its ASCII letters. -/
theorem isSome_resolve?_ofTypes {family : Family} {types : List (String × α)} {type : String × α}
    (hmem : type ∈ types) {name : String} (hname : foldCase name = foldCase type.1) :
    ((ofTypes family types).resolve? name).isSome = true := by
  have htaken : (ofTypes family types).contains type.1 = true :=
    contains_ofTypes.2 (List.mem_map.2 ⟨_, List.mem_map_of_mem hmem, rfl⟩)
  rw [contains, family_ofTypes, Option.isSome_iff_exists] at htaken
  obtain ⟨value, hvalue⟩ := htaken
  have hsmall := Text.lowercase_congr hname
  rw [Option.isSome_iff_exists]
  obtain htag | ⟨hfamily, hmarked⟩ := family.lowercase_eq type.1
  · exact ⟨value, resolve?_eq_some.2 (.inl (by rw [hsmall, htag, hvalue]))⟩
  · cases hwhole : (ofTypes family types).get? (Text.lowercase name) with
    | some other => exact ⟨other, resolve?_eq_some.2 (.inl hwhole)⟩
    | none =>
      refine ⟨value, resolve?_eq_some.2 (.inr ⟨?_, hwhole, _, hsmall.trans hmarked, hvalue⟩)⟩
      rw [family_ofTypes, hfamily]

/-- **A registry after a run of calls.**  A call is answered by whether its tag is new.  There are
as many entries as different tags.  A name resolves to the first type with the tag that is its
small form or else, among document types, with the rest of its small form after the mark.  And
every type that was registered resolves, in any case of its ASCII letters. -/
theorem resolves_runs (family : Family) (types : List (String × α)) :
    let registry := ofTypes family types
    (∀ i (hi : i < types.length), ((empty family).answers types)[i]? =
        some (decide (family.tag types[i].1 ∉ (tagged family (types.take i)).map Prod.fst))) ∧
      registry.size = ((tagged family types).map Prod.fst).toFinset.card ∧
      (∀ name value, registry.resolve? name = some value ↔
        Entries.get? (tagged family types) (Text.lowercase name) = some value ∨
          family = .document ∧
            Entries.get? (tagged family types) (Text.lowercase name) = none ∧
            ∃ rest, Text.lowercase name = "doc" ++ rest ∧
              Entries.get? (tagged family types) rest = some value) ∧
      ∀ type ∈ types, ∀ name, foldCase name = foldCase type.1 →
        (registry.resolve? name).isSome = true := by
  intro registry
  refine ⟨fun i hi => ?answers, size_ofTypes family types, fun name value => ?resolve,
    fun type hmem name hname => isSome_resolve?_ofTypes hmem hname⟩
  case answers =>
    rw [getElem?_answers, List.getElem?_eq_getElem hi, Option.map_some, Option.some_inj,
      Bool.eq_iff_iff, Bool.not_eq_true', decide_eq_true_iff, ← Bool.not_eq_true]
    exact not_congr contains_ofTypes
  case resolve =>
    rw [resolve?_eq_some, family_ofTypes]
    simp only [registry, get?_ofTypes]

end Registry

end Bindery
