import Bindery.Binding.Basic
import Bindery.Template.Build

/-!
# Access paths one after the other

A path that is put before another one, with a dot between them, leads to where the second path leads
from the end of the first.  This needs no care for what lies on the way.  A path that leads nowhere
leads to `null`, and so does one that has to go on at a scalar or an array; from `null` no path
leads anywhere.  Only the paths that stand for the scope itself cannot be joined, since they have no
keys while their text has some: `..a` asks for two empty keys before `a`.

What a template becomes in a scope does not depend on how the scope was reached.  So a piece of a
path can be moved from a template to the scope that it is bound in, in whichever role the template
follows its own path (`Template.bind_withAccess_join`).
-/

namespace Bindery

namespace AccessPath

/-- A path with another one behind it has the keys of both. -/
theorem keys_join (path more : String) : keys (path ++ "." ++ more) = keys path ++ keys more := by
  have hchars : (path ++ "." ++ more).toList = path.toList ++ '.' :: more.toList := by simp
  have hsplit : (path.toList ++ '.' :: more.toList).splitOn '.' =
      path.toList.splitOn '.' ++ more.toList.splitOn '.' :=
    List.splitOnP_append_cons _ _ (beq_self_eq_true '.')
  rw [keys, hchars, hsplit, List.map_append]
  rfl

example : keys ("." ++ "." ++ "a") = ["", "", "a"] := by decide

theorem keys_ne_nil (path : String) : keys path ≠ [] := by
  rw [keys, Ne, List.map_eq_nil_iff]
  exact List.splitOnP_ne_nil _ _

/-- From `null` no key leads anywhere. -/
theorem follow?_null {keys : List String} (h : keys ≠ []) : follow? keys .null = none := by
  cases keys with
  | nil => exact absurd rfl h
  | cons key keys => rfl

variable {path more : String}

theorem resolve?_eq_follow? (h : isCurrent path = false) (scope : Json) :
    resolve? path scope = follow? (keys path) scope := by
  rw [resolve?, h, if_neg Bool.false_ne_true]

/-- A path in front of another one has at least a key before the dot, so both together are not the
scope itself. -/
theorem isCurrent_join (h : isCurrent path = false) (more : String) :
    isCurrent (path ++ "." ++ more) = false := by
  rw [isCurrent, Bool.or_eq_false_iff, beq_eq_false_iff_ne, beq_eq_false_iff_ne] at h ⊢
  have hpath : path.length ≠ 0 := fun hlength => h.1 (String.length_eq_zero_iff.1 hlength)
  have hlength : (path ++ "." ++ more).length = path.length + 1 + more.length := by
    rw [String.length_append, String.length_append]
    rfl
  constructor
  · intro heq
    have hnone : (path ++ "." ++ more).length = 0 := congrArg String.length heq
    omega
  · intro heq
    have hone : (path ++ "." ++ more).length = 1 := congrArg String.length heq
    omega

/-- **Paths compose.** -/
theorem resolve_join (hpath : isCurrent path = false) (hmore : isCurrent more = false)
    (scope : Json) : resolve (path ++ "." ++ more) scope = resolve more (resolve path scope) := by
  rw [resolve, resolve?_eq_follow? (isCurrent_join hpath more), keys_join, follow?_append, resolve,
    resolve?_eq_follow? hmore, resolve, resolve?_eq_follow? hpath]
  cases follow? (keys path) scope with
  | none =>
    -- the miss is turned into `null`, where the rest of the path misses again
    rw [Option.bind_none, Option.getD_none, follow?_null (keys_ne_nil more), Option.getD_none]
  | some value => rfl

theorem scopes_join (hpath : isCurrent path = false) (hmore : isCurrent more = false)
    (scope : Json) : scopes (path ++ "." ++ more) scope = scopes more (resolve path scope) := by
  rw [scopes, resolve_join hpath hmore]
  rfl

end AccessPath

namespace Template

/-- How its data is reached does not matter to a node. -/
theorem node_binding_withAccess (access : String) (template : Template) :
    (template.withAccess access).binding.node = template.binding.node := by
  obtain ⟨head, kind⟩ := template
  rw [withAccess, mapHead, binding_node, binding_node]
  rfl

theorem access_binding_withAccess (access : String) (template : Template) :
    (template.withAccess access).binding.access = access := by
  obtain ⟨head, kind⟩ := template
  rw [withAccess, mapHead, binding_node]
  rfl

theorem gridLayer_join {path more : String} (hpath : AccessPath.isCurrent path = false)
    (hmore : AccessPath.isCurrent more = false) (kind : Kind Binding) (ambient : Json) :
    gridLayer (path ++ "." ++ more) kind ambient =
      gridLayer more kind (AccessPath.resolve path ambient) := by
  cases kind with
  | tableRow cells => rw [gridLayer, gridLayer, AccessPath.scopes_join hpath hmore]
  | _ => rfl

theorem bindRows_withAccess (access : String) (head : Head) (kind : Kind Template)
    (ambient : Json) :
    ((node head kind).withAccess access).bindRows ambient =
      (gridLayer access (kind.map binding) ambient).map head.row := by
  rw [bindRows, withAccess, mapHead, binding_node]
  rfl

/-- **Access paths compose.**  A template whose path has a piece in front gives, in every role in
which it follows its own path, what the template with the rest of the path gives in the value that
the piece leads to, be it `null` or an array. -/
theorem bind_withAccess_join (template : Template) {path more : String}
    (hpath : AccessPath.isCurrent path = false) (hmore : AccessPath.isCurrent more = false)
    (model : Json) :
    let joined := template.withAccess (path ++ "." ++ more)
    let rest := template.withAccess more
    joined.expand model = rest.expand (AccessPath.resolve path model) ∧
      joined.bindChild model = rest.bindChild (AccessPath.resolve path model) ∧
      joined.bindRows model = rest.bindRows (AccessPath.resolve path model) := by
  intro joined rest
  have hnode : joined.binding.node = rest.binding.node := by
    rw [node_binding_withAccess, node_binding_withAccess]
  refine ⟨?expand, ?alone, ?rows⟩
  case expand =>
    rw [expand, expand, Binding.expand, Binding.expand, access_binding_withAccess,
      access_binding_withAccess, AccessPath.scopes_join hpath hmore, hnode]
  case alone =>
    rw [bindChild, bindChild, Binding.alone, Binding.alone, access_binding_withAccess,
      access_binding_withAccess, AccessPath.resolve_join hpath hmore, hnode]
  case rows =>
    obtain ⟨head, kind⟩ := template
    rw [bindRows_withAccess, bindRows_withAccess, gridLayer_join hpath hmore]

/-- A model with two keys that are one but for their case, and another two within the first. -/
def gallery : Json :=
  .object
    [("SHOP", .object [("Logos", .string "old"), ("logos", .array [.string "a", .string "b"])]),
     ("shop", .object [("logos", .null)])]

theorem expand_gallery :
    let logos := ofKind (.image none)
    let shop := Json.object
      [("Logos", .string "old"), ("logos", .array [.string "a", .string "b"])]
    AccessPath.isCurrent "Shop" = false ∧ AccessPath.isCurrent "logos" = false ∧
      AccessPath.resolve "Shop" gallery = shop ∧
      (logos.withAccess "Shop.logos").expand gallery = (logos.withAccess "logos").expand shop ∧
      (logos.withAccess "logos").expand shop =
        ["a", "b"].map fun path => Doc.node ⟨[], .unset⟩ (.image (some path)) := by
  intro logos shop
  have hcurrent : AccessPath.isCurrent "Shop" = false := by decide
  have hrest : AccessPath.isCurrent "logos" = false := by decide
  have hshop : AccessPath.resolve "Shop" gallery = shop := by rfl
  have hexpand := (bind_withAccess_join logos hcurrent hrest gallery).1
  refine ⟨hcurrent, hrest, hshop, ?_, ?_⟩
  · rw [← hshop]
    exact hexpand
  · rw [expand, show logos.withAccess "logos" = node ⟨"logos", [], .unset⟩ (.image none) from rfl,
      binding_node]
    rfl

end Template

end Bindery
