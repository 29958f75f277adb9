import Bindery.Format.Number
import Bindery.Json.Basic

/-!
# Span formats

The format of a span is a text in which placeholders stand for the value of the span.  A
placeholder is `0` in braces, or `0` and a number format after a colon.  What is put in place of a
placeholder is not looked at again, so that a value may contain braces of its own.

* `SpanFormat.pieces`: a format as characters and placeholders.
* `SpanFormat.apply`: a value in a format; a value without a plain text has none in any format.
-/

namespace Bindery

/-- The plain text of a scalar.  Null, arrays and objects have none. -/
def Json.plainText? : Json → Option String
  | .string s => some s
  | .number n => some n.text
  | .bool b => some (if b then "true" else "false")
  | .null | .array _ | .object _ => none

/-- The number that a value is. -/
def Json.binary64? : Json → Option Binary64
  | .number n => some n.toBinary64
  | _ => none

namespace SpanFormat

/-- A part of a format. -/
inductive Piece where
  | char (c : Char)
  /-- A placeholder and the number format after its colon, if it has one. -/
  | placeholder (spec : Option (List Char))
deriving DecidableEq, Repr

/-- The format of a span that shows its value as it is. -/
def plain : String := "\x7b0\x7d"

/-- The parts of a format.  A placeholder that is not closed is ordinary text. -/
def pieces : List Char → List Piece
  | [] => []
  | '\x7b' :: '0' :: '\x7d' :: rest => .placeholder none :: pieces rest
  | '\x7b' :: '0' :: ':' :: rest =>
    match h : rest.dropWhile (· != '\x7d') with
    | [] => .char '\x7b' :: pieces ('0' :: ':' :: rest)
    | _ :: after =>
      have : after.length < rest.length := by
        have hle := (List.dropWhile_sublist (l := rest) (· != '\x7d')).length_le
        rw [h, List.length_cons] at hle
        exact hle
      .placeholder (some (rest.takeWhile (· != '\x7d'))) :: pieces after
  | c :: rest => .char c :: pieces rest
termination_by format => format.length

/-- What stands for a part of a format: a character for itself, a placeholder for the number in its
format if the value is a number and the format exists, and otherwise for the plain text. -/
def fill (text : String) (number : Option Binary64) : Piece → List Char
  | .char c => [c]
  | .placeholder none => text.toList
  | .placeholder (some spec) =>
    match number, NumberFormat.ofText? spec with
    | some x, some format => format.apply x
    | _, _ => text.toList

/-- A value in a format. -/
def apply (format : String) (value : Json) : Option String :=
  value.plainText?.map fun text =>
    String.ofList ((pieces format.toList).flatMap (fill text value.binary64?))

theorem pieces_plain : pieces plain.toList = [.placeholder none] := by
  simp [plain, pieces]

/-- In the plain format a value is its plain text. -/
theorem apply_plain (value : Json) : apply plain value = value.plainText? := by
  have htext : ∀ text, String.ofList ((pieces plain.toList).flatMap
      (fill text value.binary64?)) = text := by
    intro text
    rw [pieces_plain, List.flatMap_singleton, fill, String.ofList_toList]
  rw [apply, funext htext, Option.map_id']

end SpanFormat

end Bindery
