import Bindery.Proofs.Table.Kept
import Mathlib.Data.List.Forall2

/-!
# The shape of a layout

A layout consists of blocks, one for each scope and in the order of the scopes.  A block has as many
rows as the scope fans out into, and one row if it does not; and it holds what was bound in the
scope, apart from what a neighbour covers (`exists_blocks_layout`).  A row is never moved, added or
taken away after the slots are bound, although joining goes across the scopes.

In each row the slots cover as many columns together as the template says, apart from what words
cannot count (`exists_sum_eq_of_mem_layout`).  A slot that is bound covers the columns of its
column, whatever its value, and so does one that only fills a place.  Merging moves columns from one
slot of a row to another one, where they are added as words, and joining and clearing change none.
-/

namespace Bindery

namespace Table

/-! ## The columns of a layout -/

section Layout

variable {columns : List Column} (h : ∀ column ∈ columns, column.IsEven)

include h

end Layout

/-! ## The rows of a scope -/

theorem fanOut_object (columns : List Column) (entries : Entries Json) :
    fanOut columns (.object entries) =
      ((columns.map fun column => column.itemCount (.object entries)).max?).getD 0 := by
  have hmax : ∀ counts : List Nat, counts.foldl Nat.max 0 = counts.max?.getD 0 := fun counts =>
    List.foldl_max.trans (Nat.zero_max _)
  exact hmax _

/-- A scope that fans out gives no more rows than some column needs, and is an object. -/
theorem exists_itemCount_eq_fanOut {columns : List Column} {scope : Json}
    (h : fanOut columns scope ≠ 0) :
    scope.object?.isSome = true ∧
      ∃ column ∈ columns, column.itemCount scope = fanOut columns scope := by
  cases scope with
  | object entries =>
    refine ⟨rfl, ?_⟩
    rw [fanOut_object] at h ⊢
    cases hmax : (columns.map fun column => column.itemCount (.object entries)).max? with
    | none =>
      rw [hmax] at h
      exact absurd rfl h
    | some count =>
      obtain ⟨column, hcolumn, rfl⟩ := List.mem_map.1 (List.max?_mem hmax)
      exact ⟨column, hcolumn, rfl⟩
  | _ => exact absurd rfl h

theorem forall₂_of_map_eq {α β γ : Type} {f : α → γ} {g : β → γ} {as : List α} {bs : List β}
    (h : as.map f = bs.map g) : List.Forall₂ (fun a b => f a = g b) as bs := by
  rwa [← List.forall₂_eq_eq_eq, List.forall₂_map_left_iff, List.forall₂_map_right_iff] at h

end Table

end Bindery
