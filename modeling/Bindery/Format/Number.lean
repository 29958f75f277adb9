import Bindery.Binary64.Fixed
import Bindery.Digits

/-!
# Number formats

How a number is printed where a span asks for a format: with a fixed count of digits after the
point, and possibly with commas between groups of three digits before it.  A format is written as a
letter with a count (`F2`, `N0`) or as a pattern of digits (`0.00`, `#,##0.0`).
-/

namespace Bindery

/-- Digits after the point, and whether the digits before it are grouped. -/
structure NumberFormat where
  places : Nat
  grouped : Bool
deriving DecidableEq, Repr

namespace NumberFormat

/-- The greatest count of places that can be written after a letter. -/
def greatestCount : Nat := 0xffffffffffffffff

/-- A text without the plus sign it may start with. -/
def withoutPlus : List Char → List Char
  | '+' :: text => text
  | text => text

/-- A count of places: decimal digits, possibly after a plus sign. -/
def count? (text : List Char) : Option Nat :=
  let digits := withoutPlus text
  if !digits.isEmpty && digits.all Char.isDigit && Digits.value digits ≤ greatestCount then
    some (Digits.value digits)
  else none

/-- The places after a letter: two if no count follows. -/
def places? : List Char → Option Nat
  | [] => some 2
  | text => count? text

/-- The format that a pattern of digits stands for: every character after the first point is a
place, and a comma before it asks for groups. -/
def ofPattern (pattern : List Char) : NumberFormat :=
  { places := (pattern.dropWhile (· != '.')).length - 1
    grouped := (pattern.takeWhile (· != '.')).contains ',' }

/-- Whether a text is a pattern of digits. -/
def isPattern (text : List Char) : Bool :=
  !text.isEmpty && text.all fun c => c == '0' || c == '#' || c == '.' || c == ','

/-- The number format with this name, if it is one. -/
def ofText? : List Char → Option NumberFormat
  | [] => none
  | c :: text =>
    if c = 'F' ∨ c = 'f' then (places? text).map fun places => ⟨places, false⟩
    else if c = 'N' ∨ c = 'n' then (places? text).map fun places => ⟨places, true⟩
    else if isPattern (c :: text) then some (ofPattern (c :: text))
    else none

/-- Digits with a comma before every group of three that another digit precedes, counted from the
last digit. -/
def group : List Char → List Char
  | [] => []
  | digit :: digits =>
    if digits ≠ [] ∧ digits.length % 3 = 0 then digit :: ',' :: group digits
    else digit :: group digits

/-- The text of a number with its digits before the point grouped. -/
def groupThousands (text : List Char) : List Char :=
  let grouped (magnitude : List Char) : List Char :=
    group (magnitude.takeWhile (· != '.')) ++ magnitude.dropWhile (· != '.')
  match text with
  | '-' :: magnitude => '-' :: grouped magnitude
  | magnitude => grouped magnitude

/-- The number printed in the format. -/
def apply (format : NumberFormat) (x : Binary64) : List Char :=
  let text := x.fixed format.places
  if format.grouped then groupThousands text else text

end NumberFormat

end Bindery
