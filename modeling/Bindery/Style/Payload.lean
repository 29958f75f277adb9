import Bindery.Style.Basic
import Bindery.Text.Lowercase

/-!
# Style payloads

A style is written as an object of its fields.  It is read from an object, whose keys may be written
with any letters large or small, or from an array of the fields in their order.  Fields that the
style does not have are passed over, fields with a default may be missing, and the first fault in
the order of the payload is the one reported.

* `Style.encode`: the payload of a style.
* `Style.decode`: the style of a kind with a payload.
-/

namespace Bindery

namespace StyleRecord

/-- The fields with their values, as entries of an object. -/
def encode : (fields : List StyleField) → StyleRecord fields → Entries Json
  | [], _ => []
  | field :: fields, (value, record) =>
    (field.name, field.scalar.encode value) :: encode fields record

/-- The first entry of a payload that cannot be the field of its name. -/
def firstFault? (fields : List StyleField) (entries : Entries Json) : Option Mismatch :=
  entries.findSome? fun (key, value) =>
    match fields.find? fun field => field.name == key with
    | none => none
    | some field => match field.scalar.decode value with
      | .ok _ => none
      | .error fault => some fault

/-- The fields as found in the entries of a payload, or else their defaults. -/
def ofEntries : (fields : List StyleField) → Entries Json → Except Mismatch (StyleRecord fields)
  | [], _ => .ok ()
  | field :: fields, entries => do
    let value ← match entries.get? field.name, field.default with
      | some found, _ => field.scalar.decode found
      | none, some value => .ok value
      | none, none => .error (.missingField field.name)
    let record ← ofEntries fields entries
    .ok (value, record)

/-- The fields in the order of an array, missing ones at the end by their defaults.  `style` is the
type name, `total` the count of its fields and `place` the place of the first field here. -/
def ofItems (style : String) (total place : Nat) :
    (fields : List StyleField) → List Json → Except Mismatch (StyleRecord fields)
  | [], _ => .ok ()
  | field :: fields, items => do
    let value ← match items, field.default with
      | found :: _, _ => field.scalar.decode found
      | [], some value => .ok value
      | [], none => .error (.tooShort place style total)
    let record ← ofItems style total (place + 1) fields items.tail
    .ok (value, record)

end StyleRecord

namespace Style

/-- The payload of a style: its fields. -/
def encode (style : Style) : Json :=
  .object (StyleRecord.encode style.kind.fields style.record)

/-- The entries of a payload under small keys.  Keys that become equal are one key. -/
def smallKeys (entries : Entries Json) : Entries Json :=
  Entries.ofList (entries.map fun (key, value) => (Text.lowercase key, value))

/-- The fields of a kind of style, from the payload of a style. -/
def decodeRecord (kind : StyleKind) : Json → Except Mismatch (StyleRecord kind.fields)
  | .object entries =>
    let entries := smallKeys entries
    match StyleRecord.firstFault? kind.fields entries with
    | some fault => .error fault
    | none => StyleRecord.ofEntries kind.fields entries
  | .array items => do
    let record ← StyleRecord.ofItems kind.typeName kind.fields.length 0 kind.fields items
    if kind.fields.length < items.length then .error (.tooLong items.length) else .ok record
  | found => .error (.wrongType found (.payload kind.typeName))

/-- The style of a kind with this payload. -/
def decode (kind : StyleKind) (payload : Json) : Except Mismatch Style :=
  ofRecord kind <$> decodeRecord kind payload

end Style

end Bindery
