import Bindery.Json.Basic
import Bindery.Text.Quoted

/-!
# Values of the wrong shape

Why a JSON value is not the value of an attribute: what was found, and what the attribute asks for.
The cause is kept apart from its wording, which is one function (`Mismatch.message`).
-/

namespace Bindery

/-- What an attribute asks for. -/
inductive Shape where
  | text
  | flag
  | count
  | level
  | number
  | sequence
  /-- One of a fixed choice of values. -/
  | choice
  /-- Nothing, as the payload of a choice that has none. -/
  | unit
  /-- The payload of the style with this type name. -/
  | payload (style : String)
deriving DecidableEq, Repr

/-- The wording of a shape. -/
def Shape.message : Shape → String
  | text => "a string"
  | flag => "a boolean"
  | count => "u32"
  | level => "i32"
  | number => "f64"
  | sequence => "a sequence"
  | choice => "string or map"
  | unit => "unit"
  | payload style => "struct " ++ style

/-- Why a JSON value does not have the shape that is asked for. -/
inductive Mismatch where
  /-- A value of another type. -/
  | wrongType (found : Json) (expected : Shape)
  /-- An integer outside of the range. -/
  | outOfRange (found : Json) (expected : Shape)
  /-- A choice given as an object that does not have exactly one key. -/
  | manyKeys
  /-- A name that is none of the choice. -/
  | unknownName (name : String) (known : List String)
  /-- An object without this field. -/
  | missingField (name : String)
  /-- An array that ends before the field at this place, where the style has so many fields. -/
  | tooShort (length : Nat) (style : String) (fields : Nat)
  /-- An array with more items than fields. -/
  | tooLong (length : Nat)

namespace Mismatch

/-- What was found, in the wording of a message. -/
def describe : Json → String
  | .null => "null"
  | .bool true => "boolean `true`"
  | .bool false => "boolean `false`"
  | .number (.integer n) => "integer `" ++ toString n ++ "`"
  | .number (.float x) => "floating point `" ++ x.text ++ "`"
  | .string s => "string " ++ Text.quoted s
  | .array _ => "sequence"
  | .object _ => "map"

/-- A name in the quotes of a message. -/
def quoteName (name : String) : String :=
  "`" ++ name ++ "`"

/-- The names of a choice. -/
def oneOf : List String → String
  | [a, b] => quoteName a ++ " or " ++ quoteName b
  | names => "one of " ++ String.intercalate ", " (names.map quoteName)

/-- A count of elements. -/
def elements (n : Nat) : String :=
  toString n ++ (if n = 1 then " element" else " elements")

/-- The wording of a mismatch. -/
def message : Mismatch → String
  | wrongType found expected =>
    "invalid type: " ++ describe found ++ ", expected " ++ expected.message
  | outOfRange found expected =>
    "invalid value: " ++ describe found ++ ", expected " ++ expected.message
  | manyKeys => "invalid value: map, expected map with a single key"
  | unknownName name known =>
    "unknown variant " ++ quoteName name ++ ", expected " ++ oneOf known
  | missingField name => "missing field " ++ quoteName name
  | tooShort length style fields =>
    "invalid length " ++ toString length ++ ", expected struct " ++ style ++ " with " ++
      elements fields
  | tooLong length =>
    "invalid length " ++ toString length ++ ", expected fewer elements in array"

end Mismatch

end Bindery
