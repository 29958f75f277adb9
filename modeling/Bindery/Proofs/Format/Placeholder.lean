import Bindery.Format.Placeholder
import Mathlib.Data.List.Basic

/-!
# Formats put together from parts

Formats are written as literal text with placeholders in between.  Such a format is read from left
to right, and what is read first does not depend on what follows: literal text without an opening
brace is read character by character, and a placeholder ends at the first closing brace, which its
number format does not have.  So the pieces of a format are those of its parts, one part after the
other (`SpanFormat.Part.pieces_append`, `SpanFormat.pieces_ofParts`), whatever stands beside a part.

Each piece is filled in on its own, and the pieces are found before anything is filled in.  A value
in a format is therefore the parts as they are shown, strung together, and a value that looks like a
placeholder is not filled in again (`SpanFormat.apply_ofParts`).
-/

namespace Bindery

/-- Whether a value is a text, a number or a truth value. -/
def Json.isScalar : Json → Bool
  | .string _ | .number _ | .bool _ => true
  | .null | .array _ | .object _ => false

/-- Exactly the scalars have a plain text. -/
theorem Json.isSome_plainText? (value : Json) : value.plainText?.isSome = value.isScalar := by
  cases value <;> rfl

namespace SpanFormat

/-! ## Reading from left to right -/

/-- Characters other than the opening brace are read as themselves. -/
theorem pieces_unopened_append {text : List Char} (h : '\x7b' ∉ text) (rest : List Char) :
    pieces (text ++ rest) = text.map .char ++ pieces rest := by
  induction text with
  | nil => rfl
  | cons c text ih =>
    obtain ⟨hc, htext⟩ := List.ne_and_not_mem_of_not_mem_cons h
    rw [List.cons_append, pieces, ih htext, List.map_cons, List.cons_append]
    · rintro _ rfl
      exact absurd rfl hc
    · rintro _ rfl
      exact absurd rfl hc

/-- A number format goes up to the first closing brace. -/
theorem pieces_closed_append {spec : List Char} (h : '\x7d' ∉ spec) (rest : List Char) :
    pieces ('\x7b' :: '0' :: ':' :: (spec ++ '\x7d' :: rest)) =
      .placeholder (some spec) :: pieces rest := by
  have hopen : ∀ c ∈ spec, (c != '\x7d') = true := by
    intro c hc
    rw [bne_iff_ne]
    rintro rfl
    exact h hc
  have htake : (spec ++ '\x7d' :: rest).takeWhile (· != '\x7d') = spec := by
    rw [List.takeWhile_append_of_pos hopen]
    exact List.append_nil spec
  have hdrop : (spec ++ '\x7d' :: rest).dropWhile (· != '\x7d') = '\x7d' :: rest := by
    rw [List.dropWhile_append_of_pos hopen]
    rfl
  rw [pieces]
  split
  · next hnone =>
    rw [hdrop] at hnone
    cases hnone
  · next after hafter =>
    rw [hdrop] at hafter
    cases hafter
    rw [htake]

/-! ## Parts -/

/-- A part of a format as it is put together: literal text in which no placeholder begins, or a
placeholder, possibly with a number format in which it does not end. -/
inductive Part where
  | literal (text : String) (unopened : '\x7b' ∉ text.toList)
  | placeholder
  | formatted (spec : String) (unclosed : '\x7d' ∉ spec.toList)

namespace Part

/-- A part as it is written. -/
def written : Part → String
  | literal text _ => text
  | placeholder => "\x7b0\x7d"
  | formatted spec _ => "\x7b0:" ++ spec ++ "\x7d"

/-- The pieces of a part. -/
def pieces : Part → List Piece
  | literal text _ => text.toList.map .char
  | placeholder => [.placeholder none]
  | formatted spec _ => [.placeholder (some spec.toList)]

/-- What a part shows of a value with a plain text: literal text is unchanged, and a placeholder is
the number in its format if there are both, and otherwise the plain text. -/
def shown (value : Json) (text : String) : Part → String
  | literal words _ => words
  | placeholder => text
  | formatted spec _ => match value, NumberFormat.ofText? spec.toList with
    | .number n, some format => String.ofList (format.apply n.toBinary64)
    | _, _ => text

/-- **A part is read as its pieces**, whatever follows it. -/
theorem pieces_append (part : Part) (rest : List Char) :
    SpanFormat.pieces (part.written.toList ++ rest) = part.pieces ++ SpanFormat.pieces rest := by
  cases part with
  | literal text unopened => exact pieces_unopened_append unopened rest
  | placeholder =>
    have hread : SpanFormat.pieces ('\x7b' :: '0' :: '\x7d' :: rest) =
        .placeholder none :: SpanFormat.pieces rest := by rw [SpanFormat.pieces]
    simpa [written, pieces] using hread
  | formatted spec unclosed =>
    simpa [written, pieces] using pieces_closed_append unclosed rest

/-- The pieces of a part are filled in as what it shows. -/
theorem flatMap_fill_pieces (value : Json) (text : String) (part : Part) :
    part.pieces.flatMap (fill text value.binary64?) = (part.shown value text).toList := by
  cases part with
  | literal words _ =>
    rw [pieces, shown, List.flatMap_map]
    exact List.flatMap_singleton' _
  | placeholder => rw [pieces, shown, List.flatMap_singleton, fill]
  | formatted spec _ =>
    rw [pieces, List.flatMap_singleton]
    cases value <;> cases h : NumberFormat.ofText? spec.toList <;>
      simp [shown, fill, Json.binary64?, h]

end Part

/-- The format that is put together from parts. -/
def ofParts (parts : List Part) : String :=
  String.join (parts.map Part.written)

/-- The pieces of a format are those of its parts. -/
theorem pieces_ofParts (parts : List Part) :
    pieces (ofParts parts).toList = parts.flatMap Part.pieces := by
  rw [ofParts, String.toList_join, List.flatMap_map]
  induction parts with
  | nil => rw [List.flatMap_nil, List.flatMap_nil, pieces]
  | cons part parts ih => rw [List.flatMap_cons, List.flatMap_cons, part.pieces_append, ih]

/-- **A value in a format** is what the parts of the format show, strung together.  Each part shows
the same beside any others, and what it shows is not read again.  A value that is no scalar is shown
in no format at all, put together from parts or not. -/
theorem apply_ofParts (parts : List Part) (value : Json) :
    apply (ofParts parts) value =
        value.plainText?.map (fun text => String.join (parts.map (Part.shown value text))) ∧
      ∀ format, (apply format value).isSome = value.isScalar := by
  constructor
  · rw [apply]
    congr 1
    funext text
    rw [← String.toList_inj, String.toList_ofList, String.toList_join, pieces_ofParts,
      List.flatMap_assoc, List.flatMap_map]
    exact List.flatMap_congr fun part _ => part.flatMap_fill_pieces value text
  · intro format
    rw [apply, Option.isSome_map, Json.isSome_plainText?]

-- a value that looks like a placeholder is shown as it is
example : apply (plain ++ plain) (.string plain) = some (plain ++ plain) := by
  simp [apply, plain, pieces, fill, Json.plainText?]

end SpanFormat

end Bindery
