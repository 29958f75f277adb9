import Bindery.Text.Lowercase

/-!
# Registries of type tags

A persisted node or style names its type by a tag, which is the type name in small letters.  A
registry says which types there are: it maps tags to what stands for the type, keeps what was
registered first, and is asked without regard to case.

The type names of document nodes carry the mark `Doc`, which their tags leave out, so that a
template node and the document node bound from it share one tag.  A tag may still carry the mark
when it is looked up.
-/

namespace Bindery

/-- The three families of types. -/
inductive Family where
  | template
  | document
  | style
deriving DecidableEq, Repr

/-- A type name without the mark of the document family.  The mark counts as one only before an
ASCII capital. -/
def withoutMark : List Char → List Char
  | 'D' :: 'o' :: 'c' :: c :: rest =>
    if c.isUpper then c :: rest else 'D' :: 'o' :: 'c' :: c :: rest
  | name => name

/-- The tag of a type in a family. -/
def Family.tag (family : Family) (typeName : String) : String :=
  match family with
  | document => String.ofList (Text.lowerAfter [] (withoutMark typeName.toList))
  | template | style => Text.lowercase typeName

/-- What is registered in a family, under its tags. -/
structure Registry (α : Type) where
  family : Family
  entries : List (String × α)

namespace Registry

variable {α : Type}

/-- The registry of a family with nothing in it. -/
def empty (family : Family) : Registry α :=
  ⟨family, []⟩

/-- What stands under exactly this tag. -/
def get? (registry : Registry α) (tag : String) : Option α :=
  (registry.entries.find? fun entry => entry.1 == tag).map Prod.snd

/-- Whether a type with the tag of this one is registered. -/
def contains (registry : Registry α) (typeName : String) : Bool :=
  (registry.get? (registry.family.tag typeName)).isSome

/-- Register a type, unless its tag is taken. -/
def register (registry : Registry α) (typeName : String) (value : α) : Registry α :=
  if registry.contains typeName then registry
  else { registry with entries := registry.entries ++ [(registry.family.tag typeName, value)] }

/-- Register types one after the other. -/
def registerAll (registry : Registry α) (types : List (String × α)) : Registry α :=
  types.foldl (fun registered type => registered.register type.1 type.2) registry

/-- A tag in small letters without the mark of the document family, if it starts with the mark. -/
def withoutSmallMark? : List Char → Option (List Char)
  | 'd' :: 'o' :: 'c' :: rest => some rest
  | _ => none

/-- What a name refers to: what stands under it in small letters, or, for document types, what
stands under the rest of it after the mark. -/
def resolve? (registry : Registry α) (name : String) : Option α :=
  let tag := Text.lowercase name
  match registry.get? tag with
  | some value => some value
  | none => match registry.family with
    | .document =>
      (withoutSmallMark? tag.toList).bind fun rest => registry.get? (String.ofList rest)
    | .template | .style => none

/-- How many types are registered. -/
def size (registry : Registry α) : Nat :=
  registry.entries.length

/-- Whether nothing is registered. -/
def isEmpty (registry : Registry α) : Bool :=
  registry.entries.isEmpty

/-- A registry of the given types. -/
def ofTypes (family : Family) (types : List (String × α)) : Registry α :=
  (empty family).registerAll types

end Registry

end Bindery
