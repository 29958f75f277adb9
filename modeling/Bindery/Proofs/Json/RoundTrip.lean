import Bindery.Proofs.Entries
import Bindery.Proofs.Json.Spelling

/-!
# Values are read back from their text

A value that is written and read is the same value, if it nests no deeper than the reader allows,
and a text that nests deeper is refused (`ofText_pretty`).  Nothing else can go wrong with a written
value, as long as its integers fit into a word and no object has a key twice.

Reading is a machine over the tokens, and the machine stands with some arrays and objects open when
it comes to a value inside of them.  So the statement that goes through the induction on the value
is about any open frames (`Completes`): the tokens of the value take the machine from expecting a
value to having it completed in the innermost frame, if the frames and the depth of the value
together stay within the limit, and otherwise to the fault.  The failing half is carried along in
one equation with the other one (`outcome`), because a part that nests too deep may come after any
number of parts that do not.
-/

namespace Bindery

namespace Json

mutual

/-- How deep arrays and objects nest in a value. -/
def depth : Json → Nat
  | array items => depthItems items + 1
  | object entries => depthEntries entries + 1
  | _ => 0

/-- How deep they nest in the items of an array. -/
def depthItems : List Json → Nat
  | [] => 0
  | item :: items => max (depth item) (depthItems items)

/-- How deep they nest in the entries of an object. -/
def depthEntries : List (String × Json) → Nat
  | [] => 0
  | (_, value) :: entries => max (depth value) (depthEntries entries)

end

theorem intercalate_singleton_cons {α : Type} (separator : α) (first : List α)
    (rest : List (List α)) :
    [separator].intercalate (first :: rest) = first ++ rest.flatMap (separator :: ·) := by
  induction rest generalizing first with
  | nil => simp
  | cons next rest ih =>
    rw [List.intercalate_cons_cons, ih, List.flatMap_cons, List.append_assoc, List.singleton_append,
      List.cons_append]

/-! ## The machine -/

section Machine

variable {limit : Nat} {frames : List Frame}

/-- What reading a part of a text comes to: it goes on, if what it holds nests no deeper than is
allowed. -/
def outcome (fits : Prop) [Decidable fits] (progress : Progress) : Except Fault Progress :=
  if fits then .ok progress else .error .malformed

/-- The machine over several tokens. -/
def advance (limit : Nat) (tokens : List Token) (progress : Progress) : Except Fault Progress :=
  tokens.foldlM (step (.strict (some limit))) progress

section Advance

variable {fits fits' : Prop} [Decidable fits] [Decidable fits'] {first middle last : Progress}

theorem outcome_congr (h : fits ↔ fits') (progress : Progress) :
    outcome fits progress = outcome fits' progress := by
  simp only [outcome, h]

theorem advance_append {before after : List Token}
    (hbefore : advance limit before first = outcome fits middle)
    (hafter : fits → advance limit after middle = outcome fits' last) :
    advance limit (before ++ after) first = outcome (fits ∧ fits') last := by
  rw [advance, List.foldlM_append]
  change advance limit before first >>= advance limit after = _
  rw [hbefore]
  by_cases hfits : fits
  · simp only [outcome, hfits, if_true, true_and]
    exact hafter hfits
  · simp only [outcome, hfits, if_false, false_and]
    rfl

theorem advance_singleton (token : Token) :
    advance limit [token] first = step (.strict (some limit)) first token := by
  rw [advance, List.foldlM_cons]
  exact bind_pure _

theorem advance_cons {token : Token} {tokens : List Token}
    (htoken : step (.strict (some limit)) first token = outcome fits middle)
    (htokens : fits → advance limit tokens middle = outcome fits' last) :
    advance limit (token :: tokens) first = outcome (fits ∧ fits') last := by
  have hfirst : advance limit [token] first = outcome fits middle :=
    (advance_singleton token).trans htoken
  exact advance_append hfirst htokens

theorem advance_cons_ok {token : Token} {tokens : List Token}
    (htoken : step (.strict (some limit)) first token = .ok middle) :
    advance limit (token :: tokens) first = advance limit tokens middle := by
  rw [advance, List.foldlM_cons, htoken]
  rfl

end Advance

/-- Whether a value may come next. -/
def ExpectsValue (expectation : Expectation) : Prop :=
  expectation = .value ∨ expectation = .firstItem

/-- Whether a key may come next. -/
def ExpectsKey (expectation : Expectation) : Prop :=
  expectation = .key ∨ expectation = .firstKey

theorem step_value {mode : Mode} {expectation : Expectation} (h : ExpectsValue expectation)
    {token : Token} (htoken : token ≠ .closeArray) :
    step mode (.reading frames expectation) token = valueStep mode frames token := by
  obtain rfl | rfl := h
  · rfl
  · cases token with
    | closeArray => exact absurd rfl htoken
    | _ =>
      cases frames with
      | nil => rfl
      | cons frame frames => cases frame <;> rfl

theorem step_key {expectation : Expectation} (h : ExpectsKey expectation) (entries : Entries Json)
    (pending : Option String) (key : String) :
    step (.strict (some limit)) (.reading (.object entries pending :: frames) expectation)
        (.scalar (.ofString key)) =
      .ok (.reading (.object entries (some key) :: frames) .colon) := by
  obtain rfl | rfl := h <;> rfl

theorem step_scalar {expectation : Expectation} (h : ExpectsValue expectation) {scalar : Scalar}
    {value : Json} (hscalar : scalar.value = .ok value) :
    step (.strict (some limit)) (.reading frames expectation) (.scalar scalar) =
      .ok (complete value frames) := by
  rw [step_value h (by simp), valueStep]
  simp only [Mode.strict, hscalar]
  rfl

theorem step_openArray {expectation : Expectation} (h : ExpectsValue expectation) :
    step (.strict (some limit)) (.reading frames expectation) .openArray =
      outcome (frames.length < limit) (.reading (.array [] :: frames) .firstItem) := by
  rw [step_value h (by simp)]
  simp [valueStep, descend, Mode.strict, outcome]

theorem step_openObject {expectation : Expectation} (h : ExpectsValue expectation) :
    step (.strict (some limit)) (.reading frames expectation) .openObject =
      outcome (frames.length < limit) (.reading (.object [] none :: frames) .firstKey) := by
  rw [step_value h (by simp)]
  simp [valueStep, descend, Mode.strict, outcome]

/-- Whether reading a value completes it, wherever a value may stand, as long as it does not nest
too deep there. -/
def Completes (limit : Nat) (value : Json) : Prop :=
  ∀ (frames : List Frame) (expectation : Expectation), frames.length ≤ limit →
    ExpectsValue expectation →
    advance limit (spelling value) (.reading frames expectation) =
      outcome (frames.length + depth value ≤ limit) (complete value frames)

/-- The items of an array after the first are completed one after the other. -/
theorem advance_items {items : List Json} (hitems : ∀ item ∈ items, Completes limit item)
    (hopen : frames.length < limit) (done : List Json) :
    advance limit ((spellingItems items).flatMap (.comma :: ·) ++ [.closeArray])
        (.reading (.array done :: frames) .separator) =
      outcome (frames.length + 1 + depthItems items ≤ limit)
        (complete (.array (done.reverse ++ items)) frames) := by
  induction items generalizing done with
  | nil =>
    rw [spellingItems, List.flatMap_nil, List.nil_append, advance_singleton, depthItems, outcome,
      if_pos (by omega), List.append_nil]
    rfl
  | cons item items ih =>
    rw [List.forall_mem_cons] at hitems
    have hitem := hitems.1 (.array done :: frames) .value hopen (Or.inl rfl)
    have hrest := ih hitems.2 (item :: done)
    have hcomma : step (.strict (some limit)) (.reading (.array done :: frames) .separator) .comma =
        .ok (.reading (.array done :: frames) .value) := rfl
    rw [spellingItems, List.flatMap_cons, List.append_assoc, List.cons_append,
      advance_cons_ok hcomma, advance_append hitem fun _ => hrest, List.reverse_cons,
      List.append_assoc, List.singleton_append]
    apply outcome_congr
    rw [List.length_cons, depthItems]
    omega

theorem completes_array {items : List Json} (hitems : ∀ item ∈ items, Completes limit item) :
    Completes limit (.array items) := by
  intro frames expectation _ hexpectation
  rw [spelling, depth]
  cases items with
  | nil =>
    have hclose : advance limit [.closeArray] (.reading (.array [] :: frames) .firstItem) =
        outcome True (complete (.array []) frames) := advance_singleton _
    rw [spellingItems, List.intercalate_nil, List.nil_append,
      advance_cons (step_openArray hexpectation) fun _ => hclose, depthItems]
    apply outcome_congr
    rw [and_true]
    omega
  | cons item items =>
    rw [List.forall_mem_cons] at hitems
    have hitem := fun hopen : frames.length < limit =>
      hitems.1 (.array [] :: frames) .firstItem hopen (Or.inr rfl)
    have hrest := fun hopen : frames.length < limit => advance_items hitems.2 hopen [item]
    rw [spellingItems, intercalate_singleton_cons, List.append_assoc,
      advance_cons (step_openArray hexpectation) fun hopen =>
        advance_append (hitem hopen) fun _ => hrest hopen, depthItems]
    apply outcome_congr
    rw [List.length_cons]
    omega

/-- An entry with a new key becomes the last one. -/
theorem advance_entry {key : String} {value : Json} (hvalue : Completes limit value)
    (hopen : frames.length < limit) {done : Entries Json} (hkey : key ∉ done.map Prod.fst)
    {expectation : Expectation} (hexpectation : ExpectsKey expectation) :
    advance limit (.scalar (.ofString key) :: .colon :: spelling value)
        (.reading (.object done none :: frames) expectation) =
      outcome (frames.length + 1 + depth value ≤ limit)
        (.reading (.object (done ++ [(key, value)]) none :: frames) .separator) := by
  have hcolon : step (.strict (some limit)) (.reading (.object done (some key) :: frames) .colon)
      .colon = .ok (.reading (.object done (some key) :: frames) .value) := rfl
  rw [advance_cons_ok (step_key hexpectation done none key), advance_cons_ok hcolon,
    hvalue (.object done (some key) :: frames) .value hopen (Or.inl rfl), complete,
    Option.getD_some,
    Entries.insert_of_new value hkey, List.length_cons]

/-- The entries of an object after the first are completed one after the other. -/
theorem advance_entries {entries : List (String × Json)}
    (hentries : ∀ entry ∈ entries, Completes limit entry.2) (hopen : frames.length < limit)
    {done : Entries Json} (hkeys : ((done ++ entries).map Prod.fst).Nodup) :
    advance limit ((spellingEntries entries).flatMap (.comma :: ·) ++ [.closeObject])
        (.reading (.object done none :: frames) .separator) =
      outcome (frames.length + 1 + depthEntries entries ≤ limit)
        (complete (.object (done ++ entries)) frames) := by
  induction entries generalizing done with
  | nil =>
    rw [spellingEntries, List.flatMap_nil, List.nil_append, advance_singleton, depthEntries,
      outcome, if_pos (by omega), List.append_nil]
    rfl
  | cons entry entries ih =>
    obtain ⟨key, value⟩ := entry
    rw [List.forall_mem_cons] at hentries
    have hvalue : Completes limit value := hentries.1
    have hnew : key ∉ done.map Prod.fst := by
      rw [List.map_append, List.map_cons] at hkeys
      exact fun hmem => List.disjoint_of_nodup_append hkeys hmem List.mem_cons_self
    have hcomma : step (.strict (some limit)) (.reading (.object done none :: frames) .separator)
        .comma = .ok (.reading (.object done none :: frames) .key) := rfl
    have hentry := advance_entry hvalue hopen hnew (Or.inl rfl)
    have hlater : ((done ++ [(key, value)] ++ entries).map Prod.fst).Nodup := by
      simpa using hkeys
    have hrest := ih hentries.2 hlater
    rw [spellingEntries, List.flatMap_cons, List.append_assoc, List.cons_append,
      advance_cons_ok hcomma, advance_append hentry fun _ => hrest, List.append_assoc,
      List.singleton_append]
    apply outcome_congr
    rw [depthEntries]
    omega

theorem completes_object {entries : List (String × Json)}
    (hkeys : (entries.map Prod.fst).Nodup)
    (hentries : ∀ entry ∈ entries, Completes limit entry.2) :
    Completes limit (.object entries) := by
  intro frames expectation _ hexpectation
  rw [spelling, depth]
  cases entries with
  | nil =>
    have hclose : advance limit [.closeObject] (.reading (.object [] none :: frames) .firstKey) =
        outcome True (complete (.object []) frames) := advance_singleton _
    rw [spellingEntries, List.intercalate_nil, List.nil_append,
      advance_cons (step_openObject hexpectation) fun _ => hclose, depthEntries]
    apply outcome_congr
    rw [and_true]
    omega
  | cons entry entries =>
    obtain ⟨key, value⟩ := entry
    rw [List.forall_mem_cons] at hentries
    have hvalue : Completes limit value := hentries.1
    have hnew : key ∉ ([] : Entries Json).map Prod.fst := List.not_mem_nil
    have hlater : (([(key, value)] ++ entries).map Prod.fst).Nodup := hkeys
    have hentry := fun hopen : frames.length < limit =>
      advance_entry hvalue hopen hnew (Or.inr rfl)
    have hrest := fun hopen : frames.length < limit => advance_entries hentries.2 hopen hlater
    rw [spellingEntries, intercalate_singleton_cons, List.append_assoc,
      advance_cons (step_openObject hexpectation) fun hopen =>
        advance_append (hentry hopen) fun _ => hrest hopen, depthEntries]
    apply outcome_congr
    omega

theorem completes_scalar {value : Json} {scalar : Scalar}
    (hspelling : spelling value = [.scalar scalar]) (hdepth : depth value = 0)
    (hscalar : scalar.value = .ok value) : Completes limit value := by
  intro frames expectation hframes hexpectation
  rw [hspelling, advance_singleton, step_scalar hexpectation hscalar, hdepth, Nat.add_zero,
    outcome, if_pos hframes]

/-- **The machine completes a written value**, unless it nests too deep. -/
theorem completes {value : Json} (h : value.WellFormed) : Completes limit value := by
  induction h with
  | null => exact completes_scalar (by rw [spelling]) (by simp [depth]) rfl
  | bool value => exact completes_scalar (by rw [spelling]) (by simp [depth]) rfl
  | number hn => exact completes_scalar (by rw [spelling]) (by simp [depth]) rfl
  | string s => exact completes_scalar (by rw [spelling]) (by simp [depth]) rfl
  | array _ ih => exact completes_array ih
  | object hkeys _ ih => exact completes_object hkeys ih

end Machine

/-- **A value is read back from its text** if it nests no deeper than the limit; a text that nests
deeper is refused. -/
theorem ofText_pretty {value : Json} (h : value.WellFormed) :
    ofText value.pretty = if depth value ≤ depthLimit then .ok value else .error .malformed := by
  have hcompletes : Completes depthLimit value := completes h
  have hread := hcompletes [] .value (Nat.zero_le _) (Or.inl rfl)
  rw [List.length_nil, Nat.zero_add] at hread
  rw [ofText, ofTokens, tokens_pretty h]
  change advance depthLimit (spelling value) (.reading [] .value) >>= _ = _
  rw [hread, outcome]
  split <;> rfl

end Json

end Bindery
