import Bindery.Attribute.Choice
import Bindery.Attribute.Mismatch
import Bindery.ListModel

/-!
# Scalar attributes

The types of the attributes that are plain values rather than nodes.  Each type is a code
(`Scalar`), with the values it stands for, the JSON they are written as, and the reading of JSON
that accepts exactly what may be written by hand: any number where a number is asked for, but no
fraction where a count is; a name of a choice, or an object with that name as its one key and
`null` under it.

* `Scalar.encode` and `Scalar.decode`: writing and reading.
* `Scalar.agree`: equality of values, where numbers are compared as numbers.
-/

namespace Bindery

/-- The type of a scalar attribute. -/
inductive Scalar where
  | flag
  | text
  | count
  | level
  | number
  | listModel
  | lineType
  | cellMerge
  | horizontalAlign
  | verticalAlign
  | scaling
  | compression
  | optional (scalar : Scalar)
  | sequence (scalar : Scalar)
deriving DecidableEq, Repr

namespace Scalar

/-- The values of a scalar type. -/
@[reducible] def Value : Scalar → Type
  | flag => Bool
  | text => String
  | count => UInt32
  | level => Int32
  | number => Binary64
  | listModel => ListModel
  | lineType => LineType
  | cellMerge => CellMerge
  | horizontalAlign => HorizontalAlign
  | verticalAlign => VerticalAlign
  | scaling => Scaling
  | compression => Compression
  | optional scalar => Option scalar.Value
  | sequence scalar => List scalar.Value

/-- The name of a scalar type in messages. -/
def typeName : Scalar → String
  | flag => "bool"
  | text => "alloc::string::String"
  | count => "u32"
  | level => "i32"
  | number => "f64"
  | listModel => "folio::model::ListModel"
  | lineType => "folio::model::LineType"
  | cellMerge => "folio::model::AutoCellMerge"
  | horizontalAlign => "folio::style::HorizontalAlign"
  | verticalAlign => "folio::style::VerticalAlign"
  | scaling => "folio::style::Scaling"
  | compression => "folio::style::Compression"
  | optional scalar => "core::option::Option<" ++ scalar.typeName ++ ">"
  | sequence scalar => "alloc::vec::Vec<" ++ scalar.typeName ++ ">"

/-! ## Writing -/

/-- A choice by its name. -/
def encodeChoice {α : Type} [Enumeration α] (value : α) : Json :=
  .string (Enumeration.name value)

/-- The JSON of a value.  An absent value is `null`. -/
def encode : (scalar : Scalar) → scalar.Value → Json
  | flag, value => .bool value
  | text, value => .string value
  | count, value => .ofNat value.toNat
  | level, value => .ofInt value.toInt
  | number, value => .ofBinary64 value
  | listModel, value => encodeChoice value
  | lineType, value => encodeChoice value
  | cellMerge, value => encodeChoice value
  | horizontalAlign, value => encodeChoice value
  | verticalAlign, value => encodeChoice value
  | scaling, value => encodeChoice value
  | compression, value => encodeChoice value
  | optional scalar, value => .ofOption scalar.encode value
  | sequence scalar, value => .array (value.map scalar.encode)

/-! ## Reading -/

/-- A choice given by name. -/
def choiceNamed {α : Type} [Enumeration α] (name : String) : Except Mismatch α :=
  match Enumeration.ofName? name with
  | some value => .ok value
  | none =>
    .error (.unknownName name ((Enumeration.values (α := α)).map Enumeration.name))

/-- A choice: its name, or an object with the name as its one key and nothing under it. -/
def decodeChoice {α : Type} [Enumeration α] : Json → Except Mismatch α
  | .string name => choiceNamed name
  | .object [(name, payload)] => do
    let value ← choiceNamed name
    match payload with
    | .null => .ok value
    | payload => .error (.wrongType payload .unit)
  | .object _ => .error .manyKeys
  | found => .error (.wrongType found .choice)

/-- A flag. -/
def decodeFlag : Json → Except Mismatch Bool
  | .bool value => .ok value
  | found => .error (.wrongType found .flag)

/-- A text. -/
def decodeText : Json → Except Mismatch String
  | .string value => .ok value
  | found => .error (.wrongType found .text)

/-- A count: an integer of 32 bits without a sign. -/
def decodeCount : Json → Except Mismatch UInt32
  | .number (.integer n) =>
    if 0 ≤ n ∧ n < 0x100000000 then .ok (.ofNat n.toNat)
    else .error (.outOfRange (.number (.integer n)) .count)
  | found => .error (.wrongType found .count)

/-- A level: an integer of 32 bits with a sign. -/
def decodeLevel : Json → Except Mismatch Int32
  | .number (.integer n) =>
    if -0x80000000 ≤ n ∧ n < 0x80000000 then .ok (.ofInt n)
    else .error (.outOfRange (.number (.integer n)) .level)
  | found => .error (.wrongType found .level)

/-- A number, of either kind. -/
def decodeNumber : Json → Except Mismatch Binary64
  | .number n => .ok n.toBinary64
  | found => .error (.wrongType found .number)

/-- The items of an array, the first that cannot be read being the one reported. -/
def decodeItems {α : Type} (decode : Json → Except Mismatch α) :
    List Json → Except Mismatch (List α)
  | [] => .ok []
  | item :: items => do
    let value ← decode item
    let values ← decodeItems decode items
    .ok (value :: values)

/-- The value that a JSON value stands for. -/
def decode : (scalar : Scalar) → Json → Except Mismatch scalar.Value
  | flag => decodeFlag
  | text => decodeText
  | count => decodeCount
  | level => decodeLevel
  | number => decodeNumber
  | listModel => decodeChoice
  | lineType => decodeChoice
  | cellMerge => decodeChoice
  | horizontalAlign => decodeChoice
  | verticalAlign => decodeChoice
  | scaling => decodeChoice
  | compression => decodeChoice
  | optional scalar => fun found => match found with
    | .null => .ok none
    | found => some <$> scalar.decode found
  | sequence scalar => fun found => match found with
    | .array items => decodeItems scalar.decode items
    | found => .error (.wrongType found .sequence)

/-! ## Equality -/

/-- Items equal in the given sense, as many on either side. -/
def agreeItems {α β : Type} (agree : α → β → Bool) : List α → List β → Bool
  | [], [] => true
  | a :: as, b :: bs => agree a b && agreeItems agree as bs
  | _, _ => false

/-- Absent on both sides, or equal in the given sense. -/
def agreeOption {α β : Type} (agree : α → β → Bool) : Option α → Option β → Bool
  | none, none => true
  | some a, some b => agree a b
  | _, _ => false

/-- Equality of two values, numbers being compared as numbers. -/
def agree : (scalar : Scalar) → scalar.Value → scalar.Value → Bool
  | flag => fun a b => a == b
  | text => fun a b => a == b
  | count => fun a b => a == b
  | level => fun a b => a == b
  | number => Binary64.numEq
  | listModel => fun a b => a == b
  | lineType => fun a b => a == b
  | cellMerge => fun a b => a == b
  | horizontalAlign => fun a b => a == b
  | verticalAlign => fun a b => a == b
  | scaling => fun a b => a == b
  | compression => fun a b => a == b
  | optional scalar => agreeOption scalar.agree
  | sequence scalar => agreeItems scalar.agree

end Scalar

end Bindery
