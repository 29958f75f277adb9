import Bindery.Binary64.Shortest
import Bindery.Entries

/-!
# JSON values

Models, persisted trees and style payloads are JSON values.  A number remembers whether it was an
integer, because an integer is printed without a point and refused where a fraction is allowed to
stand for nothing else; an object keeps the order of its entries.
-/

namespace Bindery

namespace Json

/-- A JSON number: an integer of at most 64 bits, or any other number. -/
inductive Number where
  | integer (value : Int)
  | float (value : Binary64)
deriving DecidableEq

namespace Number

/-- The integers that are kept as such: those of a signed or of an unsigned 64-bit word. -/
def IsWord (n : Int) : Prop :=
  -0x8000000000000000 ≤ n ∧ n < 0x10000000000000000

instance (n : Int) : Decidable (IsWord n) :=
  inferInstanceAs (Decidable (_ ∧ _))

/-- The nearest binary64 number. -/
def toBinary64 : Number → Binary64
  | integer n => .ofInt n
  | float x => x

/-- The text of a number. -/
def text : Number → String
  | integer n => toString n
  | float x => x.text

end Number

end Json

/-- A JSON value. -/
inductive Json where
  | null
  | bool (value : Bool)
  | number (value : Json.Number)
  | string (value : String)
  | array (items : List Json)
  | object (entries : List (String × Json))

namespace Json

instance : Inhabited Json := ⟨null⟩

/-- The text of a string value. -/
def string? : Json → Option String
  | string s => some s
  | _ => none

/-- The entries of an object. -/
def object? : Json → Option (Entries Json)
  | object entries => some entries
  | _ => none

/-- The items of an array. -/
def array? : Json → Option (List Json)
  | array items => some items
  | _ => none

/-- An integer as a value. -/
def ofInt (n : Int) : Json :=
  number (.integer n)

/-- A natural number as a value. -/
def ofNat (n : Nat) : Json :=
  ofInt n

/-- A binary64 number as a value. -/
def ofBinary64 (x : Binary64) : Json :=
  number (.float x)

/-- A value, or `null` for none. -/
def ofOption {α : Type} (encode : α → Json) : Option α → Json
  | none => null
  | some value => encode value

end Json

end Bindery
