import Bindery.Proofs.Doc.Equality
import Bindery.Proofs.Table.Content
import Bindery.Proofs.Table.Layout

/-!
# What layout keeps of the bound slots

A slot that is covered by a neighbour is cleared, so covering a slot can lose what it holds.  Layout
loses nothing that is seen nowhere else (`Keeps`): a slot that is not covered holds what was bound
there, and a slot that shows something is covered only if the nearest slot above it that is not
covered holds an equal element.

What was bound where is said without spans, merging and joining (`plainGrid`): in a scope that fans
out, a column has the first of its values in the first row, the second one in the second row, and
nothing in the rows after the last one, where the values of a column are the items of an array or
the one value that is no array.

## Why a covered slot repeats the one above

Before joining, no slot *hides* anything (`Slot.HidesNothing`): what is covered from above has no
element, since a scope that fans out puts nothing below a single value, and what is covered from its
side is empty, since only empty slots are folded into a neighbour.

Joining then goes down a column, run by run (`joinColumn_eq_flatMap`).  A slot is joined to the one
right above it, which may be joined in turn, so the elements are equal along the whole run and to
the one of its first slot (`repeatsFrom_joinedRun`).  That one is not covered from the side either:
all slots of the run have the same columns, and the one that shows something has some.

All this asks that words can count the rows and the columns of the grid.  A slot that covers so many
that its span becomes zero is cleared like any other with a span of zero.
-/

namespace Bindery

namespace Table

/-! ## Slots that hide nothing -/

namespace Slot

/-- A slot whose content is not lost if it is cleared: with an element it is not covered from above,
and if it shows something it is not covered from its side. -/
structure HidesNothing (slot : Slot) : Prop where
  rows_ne_zero : slot.element.isSome = true → slot.rows ≠ 0
  columns_ne_zero : slot.isBlank = false → slot.columns ≠ 0

theorem isSome_of_isBlank_eq_false {slot : Slot} (h : slot.isBlank = false) :
    slot.element.isSome = true := by
  unfold isBlank at h
  cases helement : slot.element with
  | none =>
    rw [helement] at h
    exact absurd h Bool.noConfusion
  | some element => rfl

theorem HidesNothing.isCovered_eq_false {slot : Slot} (h : slot.HidesNothing)
    (hshown : slot.isBlank = false) : slot.isCovered = false := by
  have hrows := h.rows_ne_zero (isSome_of_isBlank_eq_false hshown)
  have hcolumns := h.columns_ne_zero hshown
  simp [isCovered, hrows, hcolumns]

/-- A slot that has come to cover more columns hides nothing, unless a word cannot count them. -/
theorem HidesNothing.widen {slot : Slot} (h : slot.HidesNothing) {more : UInt32}
    (hcolumns : (slot.widen more).columns ≠ 0) : (slot.widen more).HidesNothing where
  rows_ne_zero := h.rows_ne_zero
  columns_ne_zero _ := hcolumns

theorem HidesNothing.underSide {slot : Slot} (h : slot.HidesNothing)
    (hblank : slot.isBlank = true) : slot.underSide.HidesNothing where
  rows_ne_zero := h.rows_ne_zero
  columns_ne_zero hshown := absurd (hblank.symm.trans hshown) Bool.noConfusion

@[simp] theorem sameElement_self (slot : Slot) : slot.sameElement slot = true := by
  have hself : Scalar.agreeOption Doc.agree (slot.element.map id) slot.element = true :=
    Scalar.agreeOption_map fun element _ => element.agree_self
  rwa [Option.map_id] at hself

theorem sameElement_trans {a b c : Slot} (hab : a.sameElement b = true)
    (hbc : b.sameElement c = true) : a.sameElement c = true :=
  Scalar.agreeOption_trans (fun _ _ _ _ => Doc.agree_trans) hab hbc

theorem agrees_trans {a b c : Slot} (hab : a.agrees b = true) (hbc : b.agrees c = true) :
    a.agrees c = true := by
  simp only [agrees, Bool.and_eq_true, beq_iff_eq] at hab hbc ⊢
  exact ⟨hbc.1.trans hab.1, sameElement_trans hbc.2 hab.2⟩

/-- Two slots hold the same if they agree in all but their spans. -/
theorem content_eq_iff {a b : Slot} :
    a.content = b.content ↔ a.styles = b.styles ∧ a.flags = b.flags ∧ a.element = b.element := by
  simp [content]

@[simp] theorem isCovered_clear (slot : Slot) : slot.clear.isCovered = slot.isCovered := by
  rw [isCovered, rows_clear, columns_clear, isCovered]

theorem clear_of_isCovered_eq_false {slot : Slot} (h : slot.isCovered = false) :
    slot.clear = slot := by
  rw [clear, h]
  rfl

end Slot

theorem Slot.hidesNothing_placeholder (rowSpan colSpan : Option UInt32) :
    (Slot.placeholder rowSpan colSpan).HidesNothing where
  rows_ne_zero helement := absurd helement Bool.noConfusion
  columns_ne_zero hshown := absurd hshown Bool.noConfusion

namespace Column

variable {column : Column} (h : column.LeavesSpansOpen)

include h

theorem hidesNothing_slot (value : Json) : (column.slot value).HidesNothing where
  rows_ne_zero _ := by
    rw [rows_slot h.leavesRowsOpen]
    exact Nat.one_ne_zero
  columns_ne_zero _ := by
    rw [columns_slot h]
    exact Nat.one_ne_zero

/-- What a column puts into the rows of a scope hides nothing: the rows below a single value have no
element. -/
theorem hidesNothing_fanned (scope : Json) {rowCount row : Nat} (hsize : rowCount < UInt32.size)
    (hrow : row < rowCount) : (column.fanned scope rowCount row).HidesNothing := by
  unfold fanned
  split
  · split
    · exact hidesNothing_slot h _
    · exact Slot.hidesNothing_placeholder _ _
  · split
    · refine ⟨fun _ => ?_, (hidesNothing_slot h _).columns_ne_zero⟩
      exact (UInt32.toNat_ofNat_of_lt' hsize).trans_ne (Nat.ne_of_gt (Nat.zero_lt_of_lt hrow))
    · exact Slot.hidesNothing_placeholder _ _

end Column

section Bound

variable {columns : List Column} (h : ∀ column ∈ columns, column.LeavesSpansOpen) {scope : Json}
  (hsize : fanOut columns scope < UInt32.size)

include h hsize

/-- **Bound slots hide nothing.** -/
theorem hidesNothing_of_mem_boundGrid {row : List Slot} (hrow : row ∈ boundGrid columns scope) :
    ∀ slot ∈ row, slot.HidesNothing := by
  unfold boundGrid at hrow
  split at hrow
  · obtain rfl := List.mem_singleton.1 hrow
    exact List.forall_mem_map.2 fun column hcolumn => Column.hidesNothing_slot (h column hcolumn) _
  · obtain ⟨i, hi, rfl⟩ := List.mem_map.1 hrow
    exact List.forall_mem_map.2 fun column hcolumn =>
      Column.hidesNothing_fanned (h column hcolumn) scope hsize (List.mem_range.1 hi)

theorem hidesNothing_of_mem_scopeGrid (hwidth : columns.length < UInt32.size) {row : List Slot}
    (hrow : row ∈ scopeGrid columns scope) : ∀ slot ∈ row, slot.HidesNothing := by
  have hlength := length_of_mem_scopeGrid columns hrow
  obtain ⟨bound, hbound, rfl⟩ := List.mem_map.1 hrow
  rw [length_mergeRow] at hlength
  exact forall_mergeRow (fun _ _ hcolumns hslot => hslot.widen hcolumns)
    (fun _ hblank _ hslot => hslot.underSide hblank)
    (sum_columns_mergeRow_of_columns_eq_one _ (columns_of_mem_boundGrid h hbound)
      (hlength ▸ hwidth))
    (hidesNothing_of_mem_boundGrid h hsize hbound)

end Bound

/-! ## Columns in which covered slots repeat -/

/-- The last slot of a column that is not covered. -/
def lastLive (slots : List Slot) : Option Slot :=
  slots.reverse.find? fun slot => !slot.isCovered

theorem lastLive_cons (slot : Slot) (slots : List Slot) :
    lastLive (slot :: slots) =
      (lastLive slots).or (if slot.isCovered then none else some slot) := by
  rw [lastLive, List.reverse_cons, List.find?_append, List.find?_singleton, lastLive]
  cases slot.isCovered <;> rfl

/-- Whether every slot that is covered although it shows something repeats the element of the
nearest slot above it that is not covered.  Above the column, that slot is the given one. -/
def RepeatsFrom : Option Slot → List Slot → Prop
  | _, [] => True
  | live?, slot :: slots =>
    if slot.isCovered then
      (slot.isBlank = false → ∃ live ∈ live?, slot.sameElement live = true) ∧
        RepeatsFrom live? slots
    else RepeatsFrom (some slot) slots

theorem repeatsFrom_cons_of_covered {live? : Option Slot} {slot : Slot} {slots : List Slot}
    (h : slot.isCovered = true) :
    RepeatsFrom live? (slot :: slots) ↔
      (slot.isBlank = false → ∃ live ∈ live?, slot.sameElement live = true) ∧
        RepeatsFrom live? slots := by
  rw [RepeatsFrom, if_pos h]

theorem repeatsFrom_cons_of_live {live? : Option Slot} {slot : Slot} {slots : List Slot}
    (h : slot.isCovered = false) :
    RepeatsFrom live? (slot :: slots) ↔ RepeatsFrom (some slot) slots := by
  rw [RepeatsFrom, if_neg (by rw [h]; exact Bool.false_ne_true)]

namespace RepeatsFrom

variable {live? : Option Slot} {slots slots' : List Slot}

/-- A column that repeats on its own does so below any other. -/
theorem of_none (h : RepeatsFrom none slots) : RepeatsFrom live? slots := by
  induction slots with
  | nil => trivial
  | cons slot slots ih =>
    cases hcovered : slot.isCovered with
    | true =>
      rw [repeatsFrom_cons_of_covered hcovered] at h ⊢
      refine ⟨fun hshown => ?_, ih h.2⟩
      obtain ⟨live, hlive, -⟩ := h.1 hshown
      exact absurd hlive (by simp)
    | false =>
      rw [repeatsFrom_cons_of_live hcovered] at h ⊢
      exact h

theorem append (h : RepeatsFrom live? slots) (h' : RepeatsFrom none slots') :
    RepeatsFrom live? (slots ++ slots') := by
  induction slots generalizing live? with
  | nil => exact h'.of_none
  | cons slot slots ih =>
    rw [List.cons_append]
    cases hcovered : slot.isCovered with
    | true =>
      rw [repeatsFrom_cons_of_covered hcovered] at h ⊢
      exact ⟨h.1, ih h.2⟩
    | false =>
      rw [repeatsFrom_cons_of_live hcovered] at h ⊢
      exact ih h

theorem flatMap {α : Type} {f : α → List Slot} {items : List α}
    (h : ∀ item ∈ items, RepeatsFrom none (f item)) : RepeatsFrom none (items.flatMap f) := by
  induction items with
  | nil => trivial
  | cons item items ih =>
    rw [List.forall_mem_cons] at h
    exact h.1.append (ih h.2)

/-- **The slot that is repeated** is the nearest one above that is not covered. -/
theorem exists_live (h : RepeatsFrom live? slots) {r : Nat} {slot : Slot}
    (hslot : slots[r]? = some slot) (hcovered : slot.isCovered = true)
    (hshown : slot.isBlank = false) :
    ∃ live ∈ (lastLive (slots.take r)).or live?, slot.sameElement live = true := by
  induction slots generalizing live? r with
  | nil => exact absurd hslot (by simp)
  | cons first slots ih =>
    cases r with
    | zero =>
      obtain rfl := Option.some.inj hslot
      rw [repeatsFrom_cons_of_covered hcovered] at h
      exact h.1 hshown
    | succ r =>
      rw [List.take_succ_cons, lastLive_cons, Option.or_assoc]
      rw [List.getElem?_cons_succ] at hslot
      cases hfirst : first.isCovered with
      | true =>
        rw [repeatsFrom_cons_of_covered hfirst] at h
        exact ih h.2 hslot
      | false =>
        rw [repeatsFrom_cons_of_live hfirst] at h
        exact ih h hslot

end RepeatsFrom

/-- Slots that hide nothing have nothing to repeat. -/
theorem repeatsFrom_of_hidesNothing {live? : Option Slot} {slots : List Slot}
    (h : ∀ slot ∈ slots, slot.HidesNothing) : RepeatsFrom live? slots := by
  induction slots generalizing live? with
  | nil => trivial
  | cons slot slots ih =>
    rw [List.forall_mem_cons] at h
    cases hcovered : slot.isCovered with
    | true =>
      rw [repeatsFrom_cons_of_covered hcovered]
      refine ⟨fun hshown => ?_, ih h.2⟩
      rw [h.1.isCovered_eq_false hshown] at hcovered
      exact absurd hcovered Bool.false_ne_true
    | false =>
      rw [repeatsFrom_cons_of_live hcovered]
      exact ih h.2

/-- Slots that are all covered repeat the slot above them if each of them does. -/
theorem repeatsFrom_of_isCovered {live? : Option Slot} {slots : List Slot}
    (h : ∀ slot ∈ slots, slot.isCovered = true ∧
      (slot.isBlank = false → ∃ live ∈ live?, slot.sameElement live = true)) :
    RepeatsFrom live? slots := by
  induction slots with
  | nil => trivial
  | cons slot slots ih =>
    rw [List.forall_mem_cons] at h
    rw [repeatsFrom_cons_of_covered h.1.1]
    exact ⟨h.1.2, ih h.2⟩

/-- Within a run, every slot agrees with all slots above it. -/
theorem pairwise_of_isChain_agrees {run : List Slot}
    (h : List.IsChain (fun above slot => above.agrees slot = true) run) :
    run.Pairwise fun above slot => above.agrees slot = true := by
  have : IsTrans Slot fun above slot => above.agrees slot = true :=
    ⟨fun _ _ _ => Slot.agrees_trans⟩
  exact List.isChain_iff_pairwise.1 h

/-- **The slots of a run repeat its first slot** once they are joined.  If that one is covered from
its side, so are all of them, and then none of them shows anything. -/
theorem repeatsFrom_joinedRun {run : List Slot} (h : ∀ slot ∈ run, slot.HidesNothing)
    (hrows : ∀ slot ∈ run, slot.rows = 1) (hsize : run.length < UInt32.size)
    (hchain : List.IsChain (fun above slot => above.agrees slot = true) run) :
    RepeatsFrom none (joinedRun run) := by
  have hfirstRows := rows_eq_of_mem_head? hrows hsize
  have hsame := map_joinedRun (f := fun slot => (slot.columns, slot.element)) (fun _ => rfl)
    (fun _ => rfl) run
  cases run with
  | nil => trivial
  | cons first below =>
    rw [List.forall_mem_cons] at h
    have hagrees := (List.pairwise_cons.1 (pairwise_of_isChain_agrees hchain)).1
    obtain ⟨hcolumns, helement⟩ := Prod.mk.inj (List.cons.inj hsame).1
    have hbelow : ∀ live? : Option Slot,
        (first.columns ≠ 0 → Slot.lengthen^[below.length] first ∈ live?) →
          RepeatsFrom live? (below.map Slot.underAbove) := by
      intro live? hlive
      refine repeatsFrom_of_isCovered
        (List.forall_mem_map.2 fun slot hslot => ⟨rfl, fun hshown => ?_⟩)
      have hslotColumns : slot.columns ≠ 0 := (h.2 slot hslot).columns_ne_zero hshown
      have hagree := hagrees slot hslot
      rw [Slot.agrees, Bool.and_eq_true, beq_iff_eq] at hagree
      refine ⟨_, hlive (hagree.1 ▸ hslotColumns), ?_⟩
      rw [Slot.sameElement, helement]
      exact hagree.2
    cases hcovered : (Slot.lengthen^[below.length] first).isCovered with
    | false =>
      rw [joinedRun, repeatsFrom_cons_of_live hcovered]
      exact hbelow _ fun _ => rfl
    | true =>
      have hzero : first.columns = 0 := by
        rw [Slot.isCovered, hfirstRows _ rfl, hcolumns, Bool.or_eq_true, beq_iff_eq,
          beq_iff_eq] at hcovered
        exact hcovered.resolve_left (Nat.succ_ne_zero _)
      rw [joinedRun, repeatsFrom_cons_of_covered hcovered]
      refine ⟨fun hshown => ?_, hbelow _ fun hne => absurd hzero hne⟩
      have hfirstShown : first.isBlank = false := by
        rw [Slot.isBlank, ← helement]
        exact hshown
      exact absurd hzero (h.1.columns_ne_zero hfirstShown)

/-- **Covered slots repeat** what stands above them in a column of slots over one row each. -/
theorem repeatsFrom_joinColumn {slots : List Slot} (h : ∀ slot ∈ slots, slot.HidesNothing)
    (hrows : ∀ slot ∈ slots, slot.rows = 1) (hsize : slots.length < UInt32.size) :
    RepeatsFrom none (joinColumn slots) := by
  rw [joinColumn_eq_flatMap hrows hsize]
  refine RepeatsFrom.flatMap fun run hrun => ?_
  obtain ⟨hone, hlength⟩ := rows_and_length_of_mem_splitBy hrows hsize hrun
  have hpart := List.infix_of_mem_flatten hrun
  rw [List.flatten_splitBy] at hpart
  exact repeatsFrom_joinedRun (fun slot hslot => h slot (hpart.mem hslot)) hone hlength
    (List.isChain_of_mem_splitBy hrun)

/-! ## Grids -/

/-- The slots of a column are slots of the rows. -/
theorem forall_mem_column {α : Type} {P : α → Prop} {rows : List (List α)}
    (h : ∀ row ∈ rows, ∀ item ∈ row, P item) (c : Nat) : ∀ item ∈ column rows c, P item := by
  intro item hitem
  obtain ⟨row, hrow, hplace⟩ := List.mem_filterMap.1 hitem
  exact h row hrow item (List.mem_of_getElem? hplace)

section Joining

variable {flags : List Bool} {c : Nat}

theorem repeatsFrom_joinGrid {spread : Nat → Bool} {grid : Grid}
    (hupright : Upright flags.length spread grid) (hsize : grid.length < UInt32.size)
    (h : ∀ row ∈ grid, ∀ slot ∈ row, slot.HidesNothing) (hc : c < flags.length) :
    RepeatsFrom none (column (joinGrid flags grid) c) := by
  have hcolumn : ∀ slot ∈ column grid c, slot.HidesNothing := forall_mem_column h c
  cases hspread : spread c with
  | true =>
    by_cases hne : grid = []
    · have hlength := length_joinGrid hupright.length
      rw [hne, List.length_nil, List.length_eq_zero_iff] at hlength
      rw [hne, hlength]
      trivial
    · rw [hupright.column_joinGrid_of_spread hc hspread hne]
      exact repeatsFrom_of_hidesNothing hcolumn
  | false =>
    rw [← length_column (lt_length hupright.length hc)] at hsize
    rw [column_joinGrid hupright.length hc]
    split
    · exact repeatsFrom_joinColumn hcolumn (hupright.rows_eq_one hc hspread) hsize
    · exact repeatsFrom_of_hidesNothing hcolumn

/-- **Covered slots repeat** what stands above them in the grids of all scopes after joining. -/
theorem repeatsFrom_joinGrids {grids : List Grid}
    (hupright : ∀ grid ∈ grids, ∃ spread, Upright flags.length spread grid)
    (hsize : grids.flatten.length < UInt32.size)
    (h : ∀ grid ∈ grids, ∀ row ∈ grid, ∀ slot ∈ row, slot.HidesNothing) (hc : c < flags.length) :
    RepeatsFrom none (column (joinGrids flags grids) c) := by
  unfold joinGrids
  split
  · rw [column_flatMap]
    refine RepeatsFrom.flatMap fun grid hgrid => ?_
    obtain ⟨spread, hgridUpright⟩ := hupright grid hgrid
    exact repeatsFrom_joinGrid hgridUpright (length_lt_of_mem hsize hgrid) (h grid hgrid) hc
  · next hsingle =>
    refine repeatsFrom_joinGrid (upright_flatten hsingle hupright) hsize (fun row hrow => ?_) hc
    obtain ⟨grid, hgrid, hrow⟩ := List.mem_flatten.1 hrow
    exact h grid hgrid row hrow

end Joining

/-- The slot in a place of a grid. -/
def slotAt? (grid : Grid) (r c : Nat) : Option Slot :=
  grid[r]?.bind fun row => row[c]?

/-- The nearest slot above a place that is not covered. -/
def liveAbove? (grid : Grid) (r c : Nat) : Option Slot :=
  lastLive (column (grid.take r) c)

theorem slotAt?_map (f : Slot → Slot) (grid : Grid) (r c : Nat) :
    slotAt? (grid.map (·.map f)) r c = (slotAt? grid r c).map f := by
  rw [slotAt?, slotAt?, List.getElem?_map]
  cases grid[r]? with
  | none => rfl
  | some row => exact List.getElem?_map

/-- Clearing leaves slots that are not covered alone. -/
theorem lastLive_map_clear (slots : List Slot) :
    lastLive (slots.map Slot.clear) = lastLive slots := by
  induction slots with
  | nil => rfl
  | cons slot slots ih =>
    rw [List.map_cons, lastLive_cons, lastLive_cons, ih, Slot.isCovered_clear]
    cases hcovered : slot.isCovered with
    | true => rfl
    | false => rw [Slot.clear_of_isCovered_eq_false hcovered]

theorem liveAbove?_map_clear (grid : Grid) (r c : Nat) :
    liveAbove? (grid.map (·.map Slot.clear)) r c = liveAbove? grid r c := by
  rw [liveAbove?, ← List.map_take, column_map, lastLive_map_clear, liveAbove?]

theorem take_column {grid : Grid} {c : Nat} (h : ∀ row ∈ grid, c < row.length) (r : Nat) :
    (column grid c).take r = column (grid.take r) c := by
  induction grid generalizing r with
  | nil => rw [column, List.filterMap_nil, List.take_nil, List.take_nil, column, List.filterMap_nil]
  | cons row grid ih =>
    rw [List.forall_mem_cons] at h
    rw [column_cons_of_lt h.1]
    cases r with
    | zero => rfl
    | succ r => rw [List.take_succ_cons, List.take_succ_cons, column_cons_of_lt h.1, ih h.2]

/-- **What layout leaves.**  The slots in the places of the two grids, as they are bound and as they
are laid out, hold the same unless a neighbour covers the place, and then there is nothing to
draw. -/
structure Leaves (bound laid : Grid) : Prop where
  /-- There are the same places. -/
  places : laid.map List.length = bound.map List.length
  /-- A slot that is not covered holds what was bound there. -/
  live : ∀ {r c : Nat} {slot : Slot}, slotAt? laid r c = some slot → slot.isCovered = false →
    ∃ was, slotAt? bound r c = some was ∧ slot.styles = was.styles ∧ slot.flags = was.flags ∧
      slot.element = was.element
  /-- A slot that is covered has nothing to draw. -/
  covered : ∀ {r c : Nat} {slot : Slot}, slotAt? laid r c = some slot → slot.isCovered = true →
    slot.element = none ∧ slot.styles = []

/-- **What layout keeps.**  If something was bound in a place that is covered, it is seen in the
nearest slot above that is not. -/
structure Keeps (bound laid : Grid) : Prop extends Leaves bound laid where
  repeated : ∀ {r c : Nat} {was slot : Slot}, slotAt? bound r c = some was →
    was.isBlank = false → slotAt? laid r c = some slot → slot.isCovered = true →
    ∃ live, liveAbove? laid r c = some live ∧ was.sameElement live = true

section Clearing

variable {bound joined : Grid}

/-- Grids that hold the same have the same places. -/
theorem map_length_eq_of_content
    (h : joined.map (·.map Slot.content) = bound.map (·.map Slot.content)) :
    joined.map List.length = bound.map List.length := by
  have hlengths := congrArg (List.map List.length) h
  simpa [Function.comp_def] using hlengths

/-- What a place of one grid holds, the other one holds there too. -/
theorem slotAt?_of_content
    (h : joined.map (·.map Slot.content) = bound.map (·.map Slot.content)) (r c : Nat) :
    (slotAt? joined r c).map Slot.content = (slotAt? bound r c).map Slot.content := by
  rw [← slotAt?_map, h, slotAt?_map]

/-- Clearing changes only what is covered. -/
theorem leaves_map_clear
    (hcontent : joined.map (·.map Slot.content) = bound.map (·.map Slot.content)) :
    Leaves bound (joined.map (·.map Slot.clear)) where
  places := by
    rw [List.map_map, ← map_length_eq_of_content hcontent]
    exact List.map_congr_left fun row _ => List.length_map _
  live {r c slot} hslot hlive := by
    rw [slotAt?_map] at hslot
    obtain ⟨before, hbefore, rfl⟩ := Option.map_eq_some_iff.1 hslot
    rw [Slot.isCovered_clear] at hlive
    rw [Slot.clear_of_isCovered_eq_false hlive]
    have hwas := slotAt?_of_content hcontent r c
    rw [hbefore, Option.map_some, eq_comm, Option.map_eq_some_iff] at hwas
    obtain ⟨was, hwas, hsame⟩ := hwas
    exact ⟨was, hwas, Slot.content_eq_iff.1 hsame.symm⟩
  covered {r c slot} hslot hcovered := by
    rw [slotAt?_map] at hslot
    obtain ⟨before, -, rfl⟩ := Option.map_eq_some_iff.1 hslot
    rw [Slot.isCovered_clear] at hcovered
    rw [Slot.clear, hcovered]
    exact ⟨rfl, rfl⟩

/-- **Clearing loses nothing** of a grid in whose columns the covered slots repeat. -/
theorem keeps_map_clear {width : Nat}
    (hcontent : joined.map (·.map Slot.content) = bound.map (·.map Slot.content))
    (hlength : ∀ row ∈ joined, row.length = width)
    (hrepeats : ∀ c < width, RepeatsFrom none (column joined c)) :
    Keeps bound (joined.map (·.map Slot.clear)) where
  toLeaves := leaves_map_clear hcontent
  repeated {r c was slot} hwas hshown hslot hcovered := by
    rw [slotAt?_map] at hslot
    obtain ⟨before, hbefore, rfl⟩ := Option.map_eq_some_iff.1 hslot
    rw [Slot.isCovered_clear] at hcovered
    have hsame := slotAt?_of_content hcontent r c
    rw [hbefore, hwas, Option.map_some, Option.map_some, Option.some.injEq] at hsame
    have helement : before.element = was.element := (Slot.content_eq_iff.1 hsame).2.2
    obtain ⟨row, hrow, hplace⟩ := Option.bind_eq_some_iff.1 hbefore
    have hc : c < width := by
      rw [← hlength row (List.mem_of_getElem? hrow)]
      exact (List.getElem?_eq_some_iff.1 hplace).1
    have hwidth : ∀ row ∈ joined, c < row.length := fun row hrow => (hlength row hrow).symm ▸ hc
    have hincolumn : (column joined c)[r]? = some before := by
      rw [getElem?_column hwidth]
      exact hbefore
    have hbeforeShown : before.isBlank = false := by
      rw [Slot.isBlank, helement]
      exact hshown
    obtain ⟨live, hlive, hlast⟩ := (hrepeats c hc).exists_live hincolumn hcovered hbeforeShown
    rw [take_column hwidth, Option.or_none] at hlive
    refine ⟨live, ?_, ?_⟩
    · rw [liveAbove?_map_clear]
      exact hlive
    · rw [Slot.sameElement, ← helement]
      exact hlast

end Clearing

/-! ## Layouts -/

/-- The slots of a scope as they are bound: one row if the scope does not fan out, and else in each
row the next one of the values of each column, as long as there are any. -/
def plainGrid (columns : List Column) (scope : Json) : Grid :=
  if fanOut columns scope = 0 then
    [columns.map fun column => column.slot (AccessPath.resolve column.access scope)]
  else (List.range (fanOut columns scope)).map fun row => columns.map fun column =>
    (AccessPath.scopes column.access scope)[row]?.elim (.ofElement none) column.slot

/-- What a column puts into a row of a scope is what is bound to its value for that row. -/
theorem Column.content_fanned (column : Column) (scope : Json) (rowCount row : Nat) :
    (column.fanned scope rowCount row).content =
      ((AccessPath.scopes column.access scope)[row]?.elim (.ofElement none)
        column.slot).content := by
  rw [fanned, data, AccessPath.scopes]
  generalize AccessPath.resolve column.access scope = value
  cases value with
  | array items =>
    dsimp only
    cases items[row]? <;> rfl
  | null | bool | number | string | object =>
    cases row <;> rfl

theorem map_content_boundGrid (columns : List Column) (scope : Json) :
    (boundGrid columns scope).map (·.map Slot.content) =
      (plainGrid columns scope).map (·.map Slot.content) := by
  unfold boundGrid
  split
  · next hcount =>
    rw [plainGrid, if_pos hcount]
    rfl
  · next hcount =>
    rw [plainGrid, if_neg hcount, List.map_map, List.map_map]
    refine List.map_congr_left fun row _ => ?_
    simp only [Function.comp_apply, List.map_map]
    exact List.map_congr_left fun column _ => column.content_fanned scope _ row

/-- Before the covered slots are cleared, each slot holds what is bound to its value. -/
theorem map_content_joinGrids_plainGrid (columns : List Column) (scopes : List Json) :
    (joinGrids (columns.map Column.joinRows) (scopes.map (scopeGrid columns))).map
        (·.map Slot.content) =
      (scopes.flatMap (plainGrid columns)).map (·.map Slot.content) := by
  rw [map_content_joinGrids, List.map_flatMap, List.map_flatMap]
  exact List.flatMap_congr fun scope _ => map_content_boundGrid columns scope

/-- **Layout leaves what is bound** where no neighbour covers it. -/
theorem leaves_layout (columns : List Column) (scopes : List Json) :
    Leaves (scopes.flatMap (plainGrid columns)) (layout columns scopes) :=
  leaves_map_clear (map_content_joinGrids_plainGrid columns scopes)

/-- **Layout keeps what is bound** if the columns leave their spans open, and words can count the
rows and the columns. -/
theorem keeps_layout {columns : List Column} (h : ∀ column ∈ columns, column.LeavesSpansOpen)
    (hwidth : columns.length < UInt32.size) {scopes : List Json}
    (hsize : (layout columns scopes).length < UInt32.size) :
    Keeps (scopes.flatMap (plainGrid columns)) (layout columns scopes) := by
  have hcontent := map_content_joinGrids_plainGrid columns scopes
  have hlength := length_of_mem_scopeGrids columns scopes
  have hflags : (columns.map Column.joinRows).length = columns.length := List.length_map _
  rw [length_layout] at hsize
  have hupright : ∀ grid ∈ scopes.map (scopeGrid columns),
      ∃ spread, Upright (columns.map Column.joinRows).length spread grid := by
    intro grid hgrid
    have hgridSize := length_lt_of_mem hsize hgrid
    obtain ⟨scope, -, rfl⟩ := List.mem_map.1 hgrid
    rw [hflags]
    exact exists_upright_scopeGrid (leavesRowsOpen_of_mem h) hgridSize
  have hnothing : ∀ grid ∈ scopes.map (scopeGrid columns), ∀ row ∈ grid, ∀ slot ∈ row,
      slot.HidesNothing := by
    intro grid hgrid row hrow
    have hgridSize := length_lt_of_mem hsize hgrid
    obtain ⟨scope, -, rfl⟩ := List.mem_map.1 hgrid
    have hfanOut := Nat.lt_of_le_of_lt (fanOut_le_length_scopeGrid columns scope) hgridSize
    exact hidesNothing_of_mem_scopeGrid h hfanOut hwidth hrow
  exact keeps_map_clear hcontent (length_of_mem_joinGrids hlength)
    fun c hc => repeatsFrom_joinGrids hupright hsize hnothing hc

end Table

end Bindery
