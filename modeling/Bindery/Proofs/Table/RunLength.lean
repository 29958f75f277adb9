import Bindery.Proofs.Table.Kept
import Mathlib.Data.List.SplitBy

/-!
# Joining as run-length encoding

Down a column whose slots are over one row each, joining writes how long the runs of agreeing slots
are: the first slot of a run gets the length of the run, and the others get zero
(`map_rowSpan_joinColumn`).  The runs are those of the column before joining, and they are maximal.

Joining compares a slot with the one right above it.  That one may have been joined already, and
then it is not the one that covers the run.  It holds an equal element all the same, so within a run
any two slots agree (`pairwise_of_mem_splitBy`).

A span is a word, and so is the length that is written.  A column of 2 ^ 32 rows or more is left
out, because the length of a run could become zero there, and then the slots below it would be
counted elsewhere.
-/

namespace Bindery

namespace Table

/-- The row spans of a run.  A slot on its own keeps the one that it has. -/
def runSpans : List Slot → List (Option UInt32)
  | [] => []
  | [slot] => [slot.rowSpan]
  | _ :: below => some (.ofNat (below.length + 1)) :: List.replicate below.length (some 0)

/-- **Within a run, every slot agrees with all slots above it.** -/
theorem pairwise_of_mem_splitBy {slots run : List Slot} (h : run ∈ slots.splitBy Slot.agrees) :
    run.Pairwise fun above slot => above.agrees slot = true :=
  pairwise_of_isChain_agrees (List.isChain_of_mem_splitBy h)

/-! ## Joining a column -/

/-- A slot that has come to cover more rows says how many. -/
theorem rowSpan_iterate_lengthen (slot : Slot) (n : Nat) :
    (Slot.lengthen^[n + 1] slot).rowSpan = some (slot.height + .ofNat (n + 1)) := by
  induction n generalizing slot with
  | zero => rfl
  | succ n ih =>
    have hnext : UInt32.ofNat (n + 1 + 1) = 1 + UInt32.ofNat (n + 1) := by
      rw [Nat.add_comm, UInt32.ofNat_add]
      rfl
    rw [Function.iterate_succ_apply, ih, hnext, ← UInt32.add_assoc]
    rfl

/-- What joining gives a run. -/
theorem map_rowSpan_joinedRun {run : List Slot} (hrows : ∀ slot ∈ run, slot.rows = 1) :
    (joinedRun run).map Slot.rowSpan = runSpans run := by
  cases run with
  | nil => rfl
  | cons first below =>
    have hunder : (below.map Slot.underAbove).map Slot.rowSpan =
        List.replicate below.length (some 0) := by
      rw [List.map_map]
      exact List.map_const' ..
    rw [joinedRun, List.map_cons, hunder]
    cases below with
    | nil => rfl
    | cons slot below =>
      have hone : first.height = .ofNat 1 := UInt32.toNat.inj (List.forall_mem_cons.1 hrows).1
      rw [List.length_cons, rowSpan_iterate_lengthen, hone, ← UInt32.ofNat_add, Nat.add_comm]
      rfl

/-- **Joining writes the lengths of runs** of slots that agree. -/
theorem map_rowSpan_joinColumn {slots : List Slot} (hrows : ∀ slot ∈ slots, slot.rows = 1)
    (hsize : slots.length < UInt32.size) :
    (joinColumn slots).map Slot.rowSpan = (slots.splitBy Slot.agrees).flatMap runSpans := by
  rw [joinColumn_eq_flatMap hrows hsize, List.map_flatMap]
  exact List.flatMap_congr fun run hrun =>
    map_rowSpan_joinedRun (rows_and_length_of_mem_splitBy hrows hsize hrun).1

/-! ## Whole layouts -/

theorem Slot.rowSpan_clear (slot : Slot) : slot.clear.rowSpan = slot.rowSpan := by
  unfold clear
  split <;> rfl

section Layout

variable {columns : List Column} (h : ∀ column ∈ columns, column.LeavesRowsOpen)
  {scopes : List Json} (hsingle : ∀ scope ∈ scopes, (scopeGrid columns scope).length ≤ 1)

include h hsingle

/-- Where no scope gives several rows, every slot is over one row before joining. -/
theorem rows_eq_one_of_mem_column {c : Nat} (hc : c < columns.length) :
    ∀ slot ∈ column (scopes.flatMap (scopeGrid columns)) c, slot.rows = 1 := by
  refine (upright_of_rows fun row hrow => ?_).rows_eq_one hc rfl
  obtain ⟨scope, hscope, hrow⟩ := List.mem_flatMap.1 hrow
  have hsize := Nat.lt_of_le_of_lt (hsingle scope hscope) (by decide : 1 < UInt32.size)
  obtain ⟨spread, hupright⟩ := exists_upright_scopeGrid h hsize
  exact hupright.single (hsingle scope hscope) row hrow

omit h in
/-- Where no scope gives several rows, the rows of all scopes are joined together. -/
theorem joinGrids_eq_joinGrid (flags : List Bool) :
    joinGrids flags (scopes.map (scopeGrid columns)) =
      joinGrid flags (scopes.flatMap (scopeGrid columns)) := by
  have hnone : ¬ (scopes.map (scopeGrid columns)).any (1 < ·.length) = true := by
    intro hany
    obtain ⟨grid, hgrid, hlength⟩ := List.any_eq_true.1 hany
    obtain ⟨scope, hscope, rfl⟩ := List.mem_map.1 hgrid
    exact absurd (of_decide_eq_true hlength) (Nat.not_lt.2 (hsingle scope hscope))
  rw [joinGrids, if_neg hnone, List.flatMap_def]

/-- **The row spans of a layout** in which no scope gives several rows.  Where slots are joined, a
word has to be able to count the rows. -/
theorem map_rowSpan_layout {c : Nat} (hc : c < columns.length)
    (hsize : columns[c].joinRows = true → (layout columns scopes).length < UInt32.size) :
    (column (layout columns scopes) c).map Slot.rowSpan =
      if columns[c].joinRows then
        ((column (scopes.flatMap (scopeGrid columns)) c).splitBy Slot.agrees).flatMap runSpans
      else (column (scopes.flatMap (scopeGrid columns)) c).map Slot.rowSpan := by
  have hflags : c < (columns.map Column.joinRows).length := by rwa [List.length_map]
  have hwidth : ∀ row ∈ scopes.flatMap (scopeGrid columns),
      row.length = (columns.map Column.joinRows).length := by
    intro row hrow
    obtain ⟨scope, -, hrow⟩ := List.mem_flatMap.1 hrow
    rw [length_of_mem_scopeGrid columns hrow, List.length_map]
  have hclear : Slot.rowSpan ∘ Slot.clear = Slot.rowSpan := funext Slot.rowSpan_clear
  rw [layout, column_map, List.map_map, hclear, joinGrids_eq_joinGrid hsingle,
    column_joinGrid hwidth hflags, List.getElem_map]
  split
  · next hjoins =>
    have hlength := hsize hjoins
    rw [length_layout, ← List.flatMap_def,
      ← length_column fun row hrow => (hwidth row hrow).symm ▸ hflags] at hlength
    exact map_rowSpan_joinColumn (rows_eq_one_of_mem_column h hsingle hc) hlength
  · rfl

end Layout

end Table

end Bindery
