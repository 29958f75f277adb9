import Bindery.Json.Basic

/-!
# Access paths

An access path says where in a model the data of a node lies, seen from the scope of its parent.
The empty path and `.` are the scope itself; any other path is a list of keys separated by dots,
each looked up in an object without regard to the case of ASCII letters.

A path that leads nowhere is not an error: it leads to `null` (`AccessPath.resolve`), and what
absence means is for the node to say.
-/

namespace Bindery

namespace AccessPath

/-- The path of a node that shares the scope of its parent. -/
def current : String := "."

/-- Whether the path is the scope itself. -/
def isCurrent (path : String) : Bool :=
  path == "" || path == current

/-- The keys of a path, in order.  Keys may be empty. -/
def keys (path : String) : List String :=
  (path.toList.splitOn '.').map String.ofList

/-- The value reached by looking up keys one after the other. -/
def follow? : List String → Json → Option Json
  | [], value => some value
  | key :: keys, .object entries => (Entries.find? entries key).bind (follow? keys)
  | _ :: _, _ => none

@[simp] theorem follow?_nil (value : Json) : follow? [] value = some value := rfl

theorem follow?_append (before after : List String) (value : Json) :
    follow? (before ++ after) value = (follow? before value).bind (follow? after) := by
  induction before generalizing value with
  | nil => simp
  | cons key keys ih =>
    cases value with
    | object entries =>
      simp only [List.cons_append, follow?, Option.bind_assoc]
      exact congrArg _ (funext ih)
    | null | bool | number | string | array => rfl

/-- The value a path leads to, if there is one. -/
def resolve? (path : String) (scope : Json) : Option Json :=
  if isCurrent path then some scope else follow? (keys path) scope

/-- The value a path leads to, or `null`. -/
def resolve (path : String) (scope : Json) : Json :=
  (resolve? path scope).getD .null

/-- The scopes that a path leads to: the items of an array, or the one value that is no array. -/
def scopes (path : String) (scope : Json) : List Json :=
  match resolve path scope with
  | .array items => items
  | value => [value]

end AccessPath

end Bindery
