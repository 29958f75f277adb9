import Bindery.Json.Printer
import Bindery.Json.Reader

/-!
# Strings are read back

Reading the body of a string has two passes.  The first splits it into units and finds the closing
quote, the second makes characters of the units and refuses a surrogate without its partner.
Writing produces only units that the second pass has nothing to object to: a character that stands
for itself or has a short escape is one unit already, and the other control characters are written
by their code, which is far below the surrogates (`writtenUnit`).
-/

namespace Bindery

namespace Json

/-! ## One character -/

/-- The characters that are written with a short escape. -/
def shortlyEscaped : List Char :=
  ['"', '\\', '\x08', '\x0c', '\n', '\r', '\t']

/-- The unit that a character of a string is read as after it was written. -/
def writtenUnit (c : Char) : StringUnit :=
  if c < ' ' ∧ c ∉ shortlyEscaped then .code c.toNat else .char c

theorem stringUnits_short {c escaped : Char} (hc : c ≠ 'u') (h : shortEscape? c = some escaped)
    (rest : List Char) :
    stringUnits ('\\' :: c :: rest) =
      (.char escaped :: (stringUnits rest).1, (stringUnits rest).2) := by
  simp [stringUnits, hc, h]

theorem stringUnits_plain {c : Char} (hquote : c ≠ '"') (hbackslash : c ≠ '\\')
    (hplain : ¬ c < ' ') (rest : List Char) :
    stringUnits (c :: rest) = (.char c :: (stringUnits rest).1, (stringUnits rest).2) := by
  simp [stringUnits, hbackslash, hplain]

theorem hexDigit?_digitChar : ∀ n < 16, hexDigit? (Nat.digitChar n) = some n := by
  decide

theorem hexUnit?_digitChar {n : Nat} (hn : n < 32) :
    hexUnit? '0' '0' (Nat.digitChar (n / 16)) (Nat.digitChar (n % 16)) = some n := by
  have hzero : hexDigit? '0' = some 0 := by decide
  rw [hexUnit?, hzero, hexDigit?_digitChar _ (by omega), hexDigit?_digitChar _ (by omega)]
  simp only [Option.bind_eq_bind, Option.bind_some, Option.pure_def, Option.some.injEq]
  omega

/-- A character that is written is read as its unit. -/
theorem stringUnits_escape (c : Char) (rest : List Char) :
    stringUnits (escape c ++ rest) =
      (writtenUnit c :: (stringUnits rest).1, (stringUnits rest).2) := by
  by_cases hshort : c ∈ shortlyEscaped
  · rw [writtenUnit, if_neg fun h => h.2 hshort]
    simp only [shortlyEscaped, List.mem_cons, List.not_mem_nil, or_false] at hshort
    rcases hshort with rfl | rfl | rfl | rfl | rfl | rfl | rfl <;>
      exact stringUnits_short (by decide) rfl rest
  · have hne := hshort
    simp only [shortlyEscaped, List.mem_cons, List.not_mem_nil, or_false, not_or] at hne
    obtain ⟨hquote, hbackslash, hbackspace, hfeed, hline, hreturn, htab⟩ := hne
    simp only [escape, hquote, hbackslash, hbackspace, hfeed, hline, hreturn, htab, if_false]
    split
    · next hcontrol =>
      have hlt : c.toNat < 32 := hcontrol
      rw [writtenUnit, if_pos ⟨hcontrol, hshort⟩]
      simp only [List.cons_append, List.nil_append, stringUnits, hexUnit?_digitChar hlt]
    · next hplain =>
      rw [writtenUnit, if_neg fun h => hplain h.1]
      exact stringUnits_plain hquote hbackslash hplain rest

/-! ## The whole string -/

theorem stringUnits_flatMap_escape (s later : List Char) :
    stringUnits (s.flatMap escape ++ '"' :: later) = (s.map writtenUnit, .ok later) := by
  induction s with
  | nil => simp [stringUnits]
  | cons c s ih =>
    rw [List.flatMap_cons, List.append_assoc, stringUnits_escape, ih, List.map_cons]

theorem decodeUnits_code {unit : Nat} (hhigh : isHighSurrogate unit = false)
    (hlow : isLowSurrogate unit = false) (ending : Option Fault) (units : List StringUnit) :
    decodeUnits ending (.code unit :: units) =
      (Char.ofNat unit :: ·) <$> decodeUnits ending units := by
  cases units with
  | nil => simp [decodeUnits, hhigh, hlow]
  | cons next units => cases next <;> simp [decodeUnits, hhigh, hlow]

theorem decodeUnits_map_writtenUnit (s : List Char) :
    decodeUnits none (s.map writtenUnit) = .ok s := by
  induction s with
  | nil => rfl
  | cons c s ih =>
    rw [List.map_cons, writtenUnit]
    split
    · next hcontrol =>
      have hlt : c.toNat < 32 := hcontrol.1
      rw [decodeUnits_code (by simp [isHighSurrogate]; omega) (by simp [isLowSurrogate]; omega), ih,
        Char.ofNat_toNat]
      rfl
    · rw [decodeUnits, ih]
      rfl

/-- **A string is read back** from its quoted text. -/
theorem stringAfterQuote_append (s : String) (later : List Char) :
    stringAfterQuote (s.toList.flatMap escape ++ '"' :: later) =
      (⟨true, .ok (.string s), none⟩, later) := by
  have hvalue : (fun cs => Json.string (String.ofList cs)) <$>
      decodeUnits none (s.toList.map writtenUnit) = .ok (.string s) := by
    rw [decodeUnits_map_writtenUnit]
    exact congrArg (fun s => Except.ok (Json.string s)) String.ofList_toList
  simp only [stringAfterQuote, stringUnits_flatMap_escape, hvalue]

end Json

end Bindery
