/-!
# Enumerations

A finite type whose values are listed in a fixed order and written by name.  The law of the class
says that a written name is read back, so that every codec built on an enumeration inherits it.
-/

namespace Bindery

/-- The values of a type in order, each with its name. -/
class Enumeration (α : Type) where
  values : List α
  name : α → String
  /-- A name is read back as the value it was written for. -/
  find_name : ∀ value, values.find? (fun v => name v == name value) = some value

namespace Enumeration

variable {α : Type} [Enumeration α]

/-- The value with this name. -/
def ofName? (text : String) : Option α :=
  values.find? fun value => name value == text

@[simp] theorem ofName?_name (value : α) : ofName? (name value) = some value :=
  find_name value

end Enumeration

end Bindery
