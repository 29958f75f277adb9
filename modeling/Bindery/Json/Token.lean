import Bindery.Json.Basic
import Bindery.Binary64.Rounding
import Bindery.Digits

/-!
# Tokens of JSON text

A text is read in two steps: into tokens here, and from tokens into a value in
`Bindery.Json.Reader`.  The split is safe for faults because a token that is not well formed
becomes a token that carries its fault, and only a reader that needs the token there reports it.

A scalar is read with two degrees of care.  As a *value* it must be well formed and in range; as a
part that is *skipped* it must only have the shape of a scalar, so that a number too large for any
float and a surrogate without its partner pass.  `Scalar` holds both outcomes.

* `Json.Fault`: why a text is refused.
* `Json.tokens`: the tokens of a text, each at least one character long, hence finitely many.
-/

namespace Bindery

namespace Json

/-- Why a text is no JSON text of the expected form. -/
inductive Fault where
  /-- A character that cannot stand where it does, or a value out of range. -/
  | malformed
  /-- The text ends where more is needed. -/
  | truncated
  /-- The text is well formed but describes something else than expected. -/
  | mismatch
deriving DecidableEq, Repr

/-- A literal, number or string of the text. -/
structure Scalar where
  isString : Bool
  /-- The value, or the fault of reading one here. -/
  value : Except Fault Json
  /-- The fault of skipping the scalar, if it cannot even be skipped. -/
  skipFault : Option Fault

/-- A unit of JSON text. -/
inductive Token where
  | openArray
  | closeArray
  | openObject
  | closeObject
  | colon
  | comma
  | scalar (read : Scalar)

namespace Scalar

/-- A scalar that is read as a value without fault. -/
def ofValue (value : Json) : Scalar :=
  { isString := false, value := .ok value, skipFault := none }

/-- Text that is no scalar at all. -/
def ofFault (fault : Fault) : Scalar :=
  { isString := false, value := .error fault, skipFault := some fault }

end Scalar

/-! ## Literals -/

/-- What is left of a text after the given characters, or the fault at the first that differs. -/
def afterLiteral : List Char → List Char → Except Fault (List Char)
  | [], text => .ok text
  | _ :: _, [] => .error .truncated
  | c :: literal, d :: text => if c = d then afterLiteral literal text else .error .malformed

theorem length_afterLiteral {literal text rest : List Char}
    (h : afterLiteral literal text = .ok rest) : rest.length ≤ text.length := by
  induction literal generalizing text with
  | nil => simp_all [afterLiteral]
  | cons c literal ih =>
    cases text with
    | nil => simp [afterLiteral] at h
    | cons d text =>
      simp only [afterLiteral] at h
      split at h
      · exact Nat.le_succ_of_le (ih h)
      · simp at h

/-! ## Numbers -/

/-- A part of a number: absent, present with its digits, or begun without a digit, in which case
the flag says whether the text ended there. -/
inductive NumberPart where
  | absent
  | present (negative : Bool) (digits : List Char)
  | bare (atEnd : Bool)

/-- The digits after a mark that has been read, or the fault that there are none. -/
def digitsPart (negative : Bool) (text : List Char) : NumberPart × List Char :=
  match text.takeWhile Char.isDigit with
  | [] => (.bare text.isEmpty, text)
  | digits => (.present negative digits, text.dropWhile Char.isDigit)

/-- The fraction of a number, if the text goes on with one. -/
def fractionPart : List Char → NumberPart × List Char
  | '.' :: text => digitsPart false text
  | text => (.absent, text)

/-- The exponent of a number, if the text goes on with one. -/
def exponentPart : List Char → NumberPart × List Char
  | c :: text =>
    if c = 'e' ∨ c = 'E' then
      match text with
      | '+' :: text => digitsPart false text
      | '-' :: text => digitsPart true text
      | text => digitsPart false text
    else (.absent, c :: text)
  | [] => (.absent, [])

/-- A number that breaks off.  At the end of the text more was needed, elsewhere the next character
is at fault; a number that is only skipped is malformed in either case. -/
def Scalar.brokenNumber (atEnd : Bool) : Scalar :=
  { isString := false
    value := .error (if atEnd then .truncated else .malformed)
    skipFault := some .malformed }

/-- An integer literal: kept as an integer if it fits into 64 bits.  Minus zero does not, because
no word has that value. -/
def integerValue (negative : Bool) (digits : List Char) : Except Fault Json :=
  let magnitude := Digits.value digits
  let value : Int := if negative then -magnitude else magnitude
  if Number.IsWord value ∧ ¬(negative ∧ magnitude = 0) then .ok (number (.integer value))
  else match Binary64.ofDecimal? negative magnitude 0 with
    | some x => .ok (number (.float x))
    | none => .error .malformed

/-- A literal with a fraction or an exponent: the nearest number, if it is finite. -/
def decimalValue (negative : Bool) (whole fraction : List Char) (exponent : Int) :
    Except Fault Json :=
  match Binary64.ofDecimal? negative (Digits.value (whole ++ fraction))
      (exponent - fraction.length) with
  | some x => .ok (number (.float x))
  | none => .error .malformed

/-- The number with the given integer digits, and what follows it. -/
def numberAfterWhole (negative : Bool) (whole text : List Char) : Scalar × List Char :=
  match fractionPart text with
  | (.bare atEnd, rest) => (.brokenNumber atEnd, rest)
  | (.absent, rest) =>
    match exponentPart rest with
    | (.bare atEnd, rest) => (.brokenNumber atEnd, rest)
    | (.absent, rest) => (⟨false, integerValue negative whole, none⟩, rest)
    | (.present negativeExponent digits, rest) =>
      let exponent : Int := if negativeExponent then -Digits.value digits else Digits.value digits
      (⟨false, decimalValue negative whole [] exponent, none⟩, rest)
  | (.present _ fraction, rest) =>
    match exponentPart rest with
    | (.bare atEnd, rest) => (.brokenNumber atEnd, rest)
    | (.absent, rest) => (⟨false, decimalValue negative whole fraction 0, none⟩, rest)
    | (.present negativeExponent digits, rest) =>
      let exponent : Int := if negativeExponent then -Digits.value digits else Digits.value digits
      (⟨false, decimalValue negative whole fraction exponent, none⟩, rest)

/-- A number with its first digit already read.  Zero may lead only the number zero. -/
def numberFrom (negative : Bool) (digit : Char) (text : List Char) : Scalar × List Char :=
  match text.takeWhile Char.isDigit with
  | [] => numberAfterWhole negative [digit] text
  | more =>
    if digit = '0' then (.brokenNumber false, text)
    else numberAfterWhole negative (digit :: more) (text.dropWhile Char.isDigit)

/-- A number with its sign already read. -/
def negativeNumber : List Char → Scalar × List Char
  | [] => (.brokenNumber true, [])
  | c :: text => if c.isDigit then numberFrom true c text else (.brokenNumber false, text)

theorem length_dropWhile_le (p : Char → Bool) (text : List Char) :
    (text.dropWhile p).length ≤ text.length :=
  (List.dropWhile_sublist p).length_le

theorem length_digitsPart (negative : Bool) (text : List Char) :
    (digitsPart negative text).2.length ≤ text.length := by
  unfold digitsPart
  split
  · exact Nat.le_refl _
  · exact length_dropWhile_le _ _

theorem length_fractionPart (text : List Char) : (fractionPart text).2.length ≤ text.length := by
  unfold fractionPart
  split
  · exact Nat.le_succ_of_le (length_digitsPart _ _)
  · exact Nat.le_refl _

theorem length_exponentPart (text : List Char) : (exponentPart text).2.length ≤ text.length := by
  unfold exponentPart
  split
  · split
    · split
      · exact Nat.le_succ_of_le (Nat.le_succ_of_le (length_digitsPart _ _))
      · exact Nat.le_succ_of_le (Nat.le_succ_of_le (length_digitsPart _ _))
      · exact Nat.le_succ_of_le (length_digitsPart _ _)
    · exact Nat.le_refl _
  · exact Nat.le_refl _

theorem length_numberAfterWhole (negative : Bool) (whole text : List Char) :
    (numberAfterWhole negative whole text).2.length ≤ text.length := by
  have fraction := length_fractionPart text
  have exponent := fun rest => length_exponentPart rest
  unfold numberAfterWhole
  split
  · simp_all
  · have := exponent ‹_›
    split <;> simp_all <;> omega
  · have := exponent ‹_›
    split <;> simp_all <;> omega

theorem length_numberFrom (negative : Bool) (digit : Char) (text : List Char) :
    (numberFrom negative digit text).2.length ≤ text.length := by
  unfold numberFrom
  split
  · exact length_numberAfterWhole _ _ _
  · split
    · exact Nat.le_refl _
    · exact Nat.le_trans (length_numberAfterWhole _ _ _) (length_dropWhile_le _ _)

theorem length_negativeNumber (text : List Char) :
    (negativeNumber text).2.length ≤ text.length := by
  unfold negativeNumber
  split
  · exact Nat.le_refl _
  · split
    · exact Nat.le_succ_of_le (length_numberFrom _ _ _)
    · exact Nat.le_succ _

/-! ## Strings -/

/-- A unit of the body of a string: a character that stands for itself or has a short escape, or
a UTF-16 code unit given by its number. -/
inductive StringUnit where
  | char (c : Char)
  | code (unit : Nat)

/-- The value of a hexadecimal digit. -/
def hexDigit? (c : Char) : Option Nat :=
  if c.isDigit then some (c.toNat - '0'.toNat)
  else if 'a' ≤ c ∧ c ≤ 'f' then some (c.toNat - 'a'.toNat + 10)
  else if 'A' ≤ c ∧ c ≤ 'F' then some (c.toNat - 'A'.toNat + 10)
  else none

/-- The value of four hexadecimal digits. -/
def hexUnit? (a b c d : Char) : Option Nat := do
  return (((← hexDigit? a) * 16 + (← hexDigit? b)) * 16 + (← hexDigit? c)) * 16 + (← hexDigit? d)

/-- The character that a short escape stands for. -/
def shortEscape? : Char → Option Char
  | '"' => some '"'
  | '\\' => some '\\'
  | '/' => some '/'
  | 'b' => some '\x08'
  | 'f' => some '\x0c'
  | 'n' => some '\n'
  | 'r' => some '\r'
  | 't' => some '\t'
  | _ => none

/-- The size of a text in UTF-8, for a text of at most three characters. -/
def utf8Size (text : List Char) : Nat :=
  text.foldr (fun c size => c.utf8Size + size) 0

/-- The units of the body of a string up to its closing quote, and what follows the quote or the
fault that ends the body early.  A code unit needs four more bytes of text. -/
def stringUnits : List Char → List StringUnit × Except Fault (List Char)
  | [] => ([], .error .truncated)
  | '"' :: rest => ([], .ok rest)
  | '\\' :: 'u' :: a :: b :: c :: d :: rest =>
    match hexUnit? a b c d with
    | some unit =>
      let (units, ending) := stringUnits rest
      (.code unit :: units, ending)
    | none => ([], .error .malformed)
  | '\\' :: 'u' :: rest => ([], .error (if utf8Size rest < 4 then .truncated else .malformed))
  | ['\\'] => ([], .error .truncated)
  | '\\' :: c :: rest =>
    match shortEscape? c with
    | some escaped =>
      let (units, ending) := stringUnits rest
      (.char escaped :: units, ending)
    | none => ([], .error .malformed)
  | c :: rest =>
    if c < ' ' then ([], .error .malformed)
    else
      let (units, ending) := stringUnits rest
      (.char c :: units, ending)

theorem length_stringUnits {text rest : List Char} (h : (stringUnits text).2 = .ok rest) :
    rest.length ≤ text.length := by
  fun_induction stringUnits text <;> simp_all <;> omega

/-- Whether a code unit is the first half of a surrogate pair. -/
def isHighSurrogate (unit : Nat) : Bool :=
  0xD800 ≤ unit && unit ≤ 0xDBFF

/-- Whether a code unit is the second half of a surrogate pair. -/
def isLowSurrogate (unit : Nat) : Bool :=
  0xDC00 ≤ unit && unit ≤ 0xDFFF

/-- The characters of a string with these units, where `ending` is the fault that ended the body,
if any.  A high surrogate must be followed by a low one, and a low one must follow a high one; the
first fault in the text wins. -/
def decodeUnits (ending : Option Fault) : List StringUnit → Except Fault (List Char)
  | [] => match ending with
    | none => .ok []
    | some fault => .error fault
  | .char c :: units => (c :: ·) <$> decodeUnits ending units
  | [.code unit] =>
    if isHighSurrogate unit then .error (ending.getD .malformed)
    else if isLowSurrogate unit then .error .malformed
    else (Char.ofNat unit :: ·) <$> decodeUnits ending []
  | .code unit :: .code next :: units =>
    if isHighSurrogate unit then
      if isLowSurrogate next then
        let c := Char.ofNat (0x10000 + (unit - 0xD800) * 0x400 + (next - 0xDC00))
        (c :: ·) <$> decodeUnits ending units
      else .error .malformed
    else if isLowSurrogate unit then .error .malformed
    else (Char.ofNat unit :: ·) <$> decodeUnits ending (.code next :: units)
  | .code unit :: units =>
    if isHighSurrogate unit || isLowSurrogate unit then .error .malformed
    else (Char.ofNat unit :: ·) <$> decodeUnits ending units

/-- The string whose body starts here, and what follows it. -/
def stringAfterQuote (text : List Char) : Scalar × List Char :=
  match stringUnits text with
  | (units, .ok rest) =>
    (⟨true, (fun cs => .string (String.ofList cs)) <$> decodeUnits none units, none⟩, rest)
  | (units, .error fault) =>
    (⟨true, (fun cs => .string (String.ofList cs)) <$> decodeUnits (some fault) units, some fault⟩,
      [])

theorem length_stringAfterQuote (text : List Char) :
    (stringAfterQuote text).2.length ≤ text.length := by
  unfold stringAfterQuote
  split
  · next h => exact length_stringUnits (by rw [h])
  · exact Nat.zero_le _

/-! ## The tokens of a text -/

/-- The four characters that may stand between tokens. -/
def isSpace (c : Char) : Bool :=
  c == ' ' || c == '\n' || c == '\t' || c == '\r'

/-- A literal with its first letter already read, and what follows it. -/
def literalFrom (letters : List Char) (value : Json) (text : List Char) : Scalar × List Char :=
  match afterLiteral letters text with
  | .ok rest => (.ofValue value, rest)
  | .error fault => (.ofFault fault, [])

/-- The scalar that starts with this character, and what follows it. -/
def scalarFrom (c : Char) (text : List Char) : Scalar × List Char :=
  if c = '"' then stringAfterQuote text
  else if c = '-' then negativeNumber text
  else if c.isDigit then numberFrom false c text
  else if c = 'n' then literalFrom ['u', 'l', 'l'] .null text
  else if c = 't' then literalFrom ['r', 'u', 'e'] (.bool true) text
  else if c = 'f' then literalFrom ['a', 'l', 's', 'e'] (.bool false) text
  else (.ofFault .malformed, [])

theorem length_literalFrom (letters : List Char) (value : Json) (text : List Char) :
    (literalFrom letters value text).2.length ≤ text.length := by
  unfold literalFrom
  split
  · next h => exact length_afterLiteral h
  · exact Nat.zero_le _

theorem length_scalarFrom (c : Char) (text : List Char) :
    (scalarFrom c text).2.length ≤ text.length := by
  unfold scalarFrom
  split
  · exact length_stringAfterQuote _
  split
  · exact length_negativeNumber _
  split
  · exact length_numberFrom _ _ _
  split
  · exact length_literalFrom _ _ _
  split
  · exact length_literalFrom _ _ _
  split
  · exact length_literalFrom _ _ _
  · exact Nat.zero_le _

/-- The token that starts with this character, and what follows it. -/
def tokenFrom (c : Char) (text : List Char) : Token × List Char :=
  match c with
  | '[' => (.openArray, text)
  | ']' => (.closeArray, text)
  | '\x7b' => (.openObject, text)
  | '\x7d' => (.closeObject, text)
  | ':' => (.colon, text)
  | ',' => (.comma, text)
  | c => (.scalar (scalarFrom c text).1, (scalarFrom c text).2)

theorem length_tokenFrom (c : Char) (text : List Char) :
    (tokenFrom c text).2.length ≤ text.length := by
  unfold tokenFrom
  split <;> first | exact Nat.le_refl _ | exact length_scalarFrom _ _

/-- A token takes at least its first character. -/
theorem length_after_token {text rest : List Char} {c : Char}
    (h : text.dropWhile isSpace = c :: rest) : (tokenFrom c rest).2.length < text.length := by
  have hle := length_dropWhile_le isSpace text
  rw [h] at hle
  exact Nat.lt_of_le_of_lt (length_tokenFrom c rest) hle

/-- The tokens of a text, in order. -/
def tokens (text : List Char) : List Token :=
  match h : text.dropWhile isSpace with
  | [] => []
  | c :: rest =>
    have := length_after_token h
    (tokenFrom c rest).1 :: tokens (tokenFrom c rest).2
termination_by text.length

end Json

end Bindery
