import Bindery.Proofs.Json.Number
import Bindery.Proofs.Json.Quoted

/-!
# The tokens of a written value

Between a value and its text stand the tokens.  `spelling` is the list of tokens that a value is
written as, and `tokens_pretty` says that the text has exactly these, whatever blanks and new lines
the layout puts between them.

The tokens of a text are found from the left, so what a part of the text contributes has to be known
without what follows it.  That is possible up to one thing: a number ends only where something comes
that cannot continue it.  A text *spells* tokens (`Spells`) if these come first whenever the rest
does not continue a number.  Every part of a written value is followed by a comma, a new line or
nothing, so the parts fit together, and brackets around a list of parts spell the list
(`spells_block`).
-/

namespace Bindery

namespace Json

/-! ## One token -/

theorem tokens_eq_nil {text : List Char} (h : text.dropWhile isSpace = []) : tokens text = [] := by
  rw [tokens]
  split
  · rfl
  · next hcons => exact absurd (h.symm.trans hcons).symm (List.cons_ne_nil _ _)

theorem tokens_eq_cons {text rest : List Char} {c : Char} (h : text.dropWhile isSpace = c :: rest) :
    tokens text = (tokenFrom c rest).1 :: tokens (tokenFrom c rest).2 := by
  rw [tokens]
  split
  · next hnil => exact absurd (h.symm.trans hnil) (List.cons_ne_nil _ _)
  · next hcons =>
    obtain ⟨rfl, rfl⟩ := List.cons.inj (h.symm.trans hcons)
    rfl

@[simp] theorem tokens_nil : tokens [] = [] :=
  tokens_eq_nil rfl

theorem tokens_cons {c : Char} (hc : isSpace c = false) (text : List Char) :
    tokens (c :: text) = (tokenFrom c text).1 :: tokens (tokenFrom c text).2 :=
  tokens_eq_cons (List.dropWhile_cons_of_neg (by simp [hc]))

/-- Blanks between tokens do not matter. -/
theorem tokens_append_of_space {blanks : List Char} (hblanks : ∀ c ∈ blanks, isSpace c = true)
    (text : List Char) : tokens (blanks ++ text) = tokens text := by
  have hdrop : (blanks ++ text).dropWhile isSpace = text.dropWhile isSpace :=
    List.dropWhile_append_of_pos hblanks
  cases htext : text.dropWhile isSpace with
  | nil => rw [tokens_eq_nil htext, tokens_eq_nil (hdrop.trans htext)]
  | cons c rest => rw [tokens_eq_cons htext, tokens_eq_cons (hdrop.trans htext)]

theorem tokens_newLine (level : Nat) (text : List Char) :
    tokens ((newLine level).toList ++ text) = tokens text := by
  apply tokens_append_of_space
  intro c hc
  rw [newLine, String.toList_ofList, List.mem_cons] at hc
  obtain rfl | hblank := hc
  · rfl
  · rw [List.eq_of_mem_replicate hblank]
    rfl

/-- Whether a scalar may start with this character. -/
def StartsScalar (c : Char) : Prop :=
  c ∈ ['"', '-', 'n', 't', 'f'] ∨ c.isDigit = true

theorem StartsScalar.ne {c d : Char} (hc : StartsScalar c)
    (hd : d ∉ ['"', '-', 'n', 't', 'f'] ∧ d.isDigit = false) : c ≠ d := by
  rintro rfl
  obtain hletter | hdigit := hc
  · exact hd.1 hletter
  · simp [hd.2] at hdigit

theorem tokens_scalar {c : Char} (hc : StartsScalar c) {text later : List Char} {scalar : Scalar}
    (h : scalarFrom c text = (scalar, later)) :
    tokens (c :: text) = .scalar scalar :: tokens later := by
  have hspace : isSpace c = false := by
    simp [isSpace, hc.ne (d := ' ') (by decide), hc.ne (d := '\n') (by decide),
      hc.ne (d := '\t') (by decide), hc.ne (d := '\r') (by decide)]
  have htoken : tokenFrom c text = (.scalar (scalarFrom c text).1, (scalarFrom c text).2) := by
    unfold tokenFrom
    split
    · exact absurd rfl (hc.ne (by decide))
    · exact absurd rfl (hc.ne (by decide))
    · exact absurd rfl (hc.ne (by decide))
    · exact absurd rfl (hc.ne (by decide))
    · exact absurd rfl (hc.ne (by decide))
    · exact absurd rfl (hc.ne (by decide))
    · rfl
  rw [tokens_cons hspace, htoken, h]

/-! ## What a text spells -/

/-- A scalar that is a string. -/
def Scalar.ofString (s : String) : Scalar :=
  { isString := true, value := .ok (.string s), skipFault := none }

/-- Whether a text is read as these tokens, whatever ends a number after it. -/
def Spells (text : String) (spelled : List Token) : Prop :=
  ∀ later, EndsNumber later → tokens (text.toList ++ later) = spelled ++ tokens later

theorem endsNumber_nil : EndsNumber [] := by
  intro c hc
  exact absurd hc (Option.not_mem_none c)

theorem endsNumber_cons {c : Char} (hc : c.isDigit = false ∧ c ≠ '.' ∧ c ≠ 'e' ∧ c ≠ 'E')
    (text : List Char) : EndsNumber (c :: text) := by
  intro first hfirst
  rwa [← Option.some.inj hfirst]

theorem spells_null : Spells "null" [.scalar (.ofValue .null)] := by
  intro later _
  have hscalar : scalarFrom 'n' (['u', 'l', 'l'] ++ later) = (.ofValue .null, later) := rfl
  exact tokens_scalar (Or.inl (by decide)) hscalar

theorem spells_bool (value : Bool) :
    Spells (if value then "true" else "false") [.scalar (.ofValue (.bool value))] := by
  intro later _
  cases value with
  | true =>
    have hscalar : scalarFrom 't' (['r', 'u', 'e'] ++ later) = (.ofValue (.bool true), later) := rfl
    exact tokens_scalar (Or.inl (by decide)) hscalar
  | false =>
    have hscalar : scalarFrom 'f' (['a', 'l', 's', 'e'] ++ later) =
        (.ofValue (.bool false), later) := rfl
    exact tokens_scalar (Or.inl (by decide)) hscalar

theorem spells_number {n : Number} (hn : n.WellFormed) :
    Spells n.text [.scalar (.ofValue (.number n))] := by
  intro later hlater
  obtain ⟨c, rest, htext, hc, hread⟩ := Number.scalarFrom_text hn
  have hstart : StartsScalar c := by
    obtain rfl | hdigit := hc
    · exact Or.inl (by decide)
    · exact Or.inr hdigit
  rw [htext]
  exact tokens_scalar hstart (hread later hlater)

theorem spells_quote (s : String) : Spells (quote s) [.scalar (.ofString s)] := by
  intro later _
  have htext : (quote s).toList ++ later = '"' :: (s.toList.flatMap escape ++ '"' :: later) := by
    rw [quote, String.toList_ofList]
    simp
  rw [htext]
  exact tokens_scalar (Or.inl (by decide)) (stringAfterQuote_append s later)

/-! ## Arrays and objects -/

theorem tokens_comma (text : List Char) : tokens (",".toList ++ text) = .comma :: tokens text :=
  tokens_cons (c := ',') (by decide) text

theorem endsNumber_comma (text : List Char) : EndsNumber (",".toList ++ text) :=
  endsNumber_cons (c := ',') (by decide) text

theorem endsNumber_newLine (level : Nat) (text : List Char) :
    EndsNumber ((newLine level).toList ++ text) := by
  rw [newLine, String.toList_ofList]
  exact endsNumber_cons (by decide) _

/-- Parts with commas between them, one a line. -/
theorem spells_intercalate (level : Nat) {parts : List String} {spelled : List (List Token)}
    (h : List.Forall₂ Spells parts spelled) :
    Spells (String.intercalate ("," ++ newLine level) parts)
      ([Token.comma].intercalate spelled) := by
  induction h with
  | nil =>
    intro later _
    simp
  | cons hpart hparts ih =>
    cases hparts with
    | nil => simpa using hpart
    | cons hnext hrest =>
      intro later hlater
      rw [String.intercalate_cons_cons, List.intercalate_cons_cons]
      simp only [String.toList_append, List.append_assoc]
      rw [hpart _ (endsNumber_comma _), tokens_comma, tokens_newLine, ih later hlater]
      rfl

/-- Parts between brackets. -/
theorem spells_block (level : Nat) {opening closing : String} {first last : Token}
    (hopening : ∀ text, tokens (opening.toList ++ text) = first :: tokens text)
    (hclosing : ∀ text, tokens (closing.toList ++ text) = last :: tokens text)
    {parts : List String} {spelled : List (List Token)} (h : List.Forall₂ Spells parts spelled) :
    Spells (block level opening closing parts)
      (first :: ([Token.comma].intercalate spelled ++ [last])) := by
  intro later _
  have hparts := spells_intercalate (level + 1) h
  cases h with
  | nil => simp [block, hopening, hclosing]
  | cons hpart hrest =>
    simp only [block, List.isEmpty_cons, Bool.false_eq_true, if_false, String.toList_append,
      List.append_assoc]
    rw [hopening, tokens_newLine, hparts _ (endsNumber_newLine level _), tokens_newLine, hclosing]
    simp

theorem tokens_openArray (text : List Char) :
    tokens ("[".toList ++ text) = .openArray :: tokens text :=
  tokens_cons (c := '[') (by decide) text

theorem tokens_closeArray (text : List Char) :
    tokens ("]".toList ++ text) = .closeArray :: tokens text :=
  tokens_cons (c := ']') (by decide) text

theorem tokens_openObject (text : List Char) :
    tokens ("\x7b".toList ++ text) = .openObject :: tokens text :=
  tokens_cons (c := '\x7b') (by decide) text

theorem tokens_closeObject (text : List Char) :
    tokens ("\x7d".toList ++ text) = .closeObject :: tokens text :=
  tokens_cons (c := '\x7d') (by decide) text

/-- A key is followed by a colon and a blank. -/
theorem spells_entry (key : String) {text : String} {spelled : List Token}
    (h : Spells text spelled) :
    Spells (quote key ++ ": " ++ text) (.scalar (.ofString key) :: .colon :: spelled) := by
  intro later hlater
  have hblank : ∀ c ∈ [' '], isSpace c = true := List.forall_mem_singleton.2 rfl
  have hcolon : ∀ rest, tokens (": ".toList ++ rest) = .colon :: tokens rest := fun rest =>
    (tokens_cons (c := ':') (by decide) (' ' :: rest)).trans
      (congrArg (Token.colon :: ·) (tokens_append_of_space hblank rest))
  have hends : ∀ rest, EndsNumber (": ".toList ++ rest) := fun rest =>
    endsNumber_cons (c := ':') (by decide) (' ' :: rest)
  rw [String.toList_append, String.toList_append, List.append_assoc, List.append_assoc,
    spells_quote key _ (hends _), hcolon, h later hlater]
  rfl

/-! ## Values -/

/-- Whether a value is kept when it is written and read: its integers fit into a word, and no object
has a key twice. -/
inductive WellFormed : Json → Prop
  | null : WellFormed .null
  | bool (value : Bool) : WellFormed (.bool value)
  | number {n : Number} (hn : n.WellFormed) : WellFormed (.number n)
  | string (s : String) : WellFormed (.string s)
  | array {items : List Json} (hitems : ∀ item ∈ items, WellFormed item) : WellFormed (.array items)
  | object {entries : List (String × Json)} (hkeys : (entries.map Prod.fst).Nodup)
      (hentries : ∀ entry ∈ entries, WellFormed entry.2) : WellFormed (.object entries)

mutual

/-- The tokens that a value is written as. -/
def spelling : Json → List Token
  | null => [.scalar (.ofValue .null)]
  | bool value => [.scalar (.ofValue (.bool value))]
  | number n => [.scalar (.ofValue (.number n))]
  | string s => [.scalar (.ofString s)]
  | array items => .openArray :: ([Token.comma].intercalate (spellingItems items) ++ [.closeArray])
  | object entries =>
    .openObject :: ([Token.comma].intercalate (spellingEntries entries) ++ [.closeObject])

/-- The tokens of the items of an array. -/
def spellingItems : List Json → List (List Token)
  | [] => []
  | item :: items => spelling item :: spellingItems items

/-- The tokens of the entries of an object. -/
def spellingEntries : List (String × Json) → List (List Token)
  | [] => []
  | (key, value) :: entries =>
    (.scalar (.ofString key) :: .colon :: spelling value) :: spellingEntries entries

end

theorem prettyItems_spelled {level : Nat} {items : List Json}
    (h : ∀ item ∈ items, Spells (prettyAt level item) (spelling item)) :
    List.Forall₂ Spells (prettyItems level items) (spellingItems items) := by
  induction items with
  | nil =>
    rw [prettyItems, spellingItems]
    exact .nil
  | cons item items ih =>
    rw [List.forall_mem_cons] at h
    rw [prettyItems, spellingItems]
    exact .cons h.1 (ih h.2)

theorem prettyEntries_spelled {level : Nat} {entries : List (String × Json)}
    (h : ∀ entry ∈ entries, Spells (prettyAt level entry.2) (spelling entry.2)) :
    List.Forall₂ Spells (prettyEntries level entries) (spellingEntries entries) := by
  induction entries with
  | nil =>
    rw [prettyEntries, spellingEntries]
    exact .nil
  | cons entry entries ih =>
    obtain ⟨key, value⟩ := entry
    rw [List.forall_mem_cons] at h
    rw [prettyEntries, spellingEntries]
    exact .cons (spells_entry key h.1) (ih h.2)

/-- **The text of a value spells its tokens**, at any level of nesting. -/
theorem spells_prettyAt {value : Json} (h : value.WellFormed) (level : Nat) :
    Spells (prettyAt level value) (spelling value) := by
  induction h generalizing level with
  | null =>
    rw [prettyAt, spelling]
    exact spells_null
  | bool value =>
    have hbool := spells_bool value
    rw [spelling]
    cases value with
    | true =>
      rw [prettyAt]
      exact hbool
    | false =>
      rw [prettyAt]
      exact hbool
  | number hn =>
    rw [prettyAt, spelling]
    exact spells_number hn
  | string s =>
    rw [prettyAt, spelling]
    exact spells_quote s
  | array hitems ih =>
    rw [prettyAt, spelling]
    exact spells_block level tokens_openArray tokens_closeArray
      (prettyItems_spelled fun item hitem => ih item hitem (level + 1))
  | object hkeys hentries ih =>
    rw [prettyAt, spelling]
    exact spells_block level tokens_openObject tokens_closeObject
      (prettyEntries_spelled fun entry hentry => ih entry hentry (level + 1))

/-- The tokens of a text are those of its value. -/
theorem tokens_pretty {value : Json} (h : value.WellFormed) :
    tokens value.pretty.toList = spelling value := by
  have htokens := spells_prettyAt h 0 [] endsNumber_nil
  rwa [List.append_nil, tokens_nil, List.append_nil] at htokens

end Json

end Bindery
