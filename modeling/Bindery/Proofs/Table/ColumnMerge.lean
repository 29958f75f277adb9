import Bindery.Proofs.Table.Tiling
import Bindery.Table.ColumnMerge
import Mathlib.Algebra.GroupWithZero.Nat
import Mathlib.Logic.Relation

/-!
# Rows with merged slots

Merging along a row moves columns from one slot to another, and the slots between the two have none.
What is kept by this is that the slots, one after the other, fill the row, and each of them covers
its own place (`Fits`).  The slots over other rows stand in the way of merging, so where the number
of rows changes from one slot to the next, the slots so far fill the places so far; this is what
allows to put parts of several rows together later.

`Fits` compares the columns of the slots so far with the number of their places.  The difference is
zero at both ends of the row, at most zero where a slot begins, and greater than minus the columns
of that slot.  Moving columns changes the difference between the two slots only, and there only at
places of slots without columns, of which nothing is asked.
-/

namespace Bindery

namespace Table

/-- Whether the slots fill the rest of a row, each over its own place, if the slots before them have
covered so many columns more than there are places.  The last slot before covers the given rows. -/
def Fits : Nat → Int → List Slot → Prop
  | _, ahead, [] => ahead = 0
  | rows, ahead, slot :: slots =>
    (slot.rows ≠ rows → ahead = 0) ∧
      (slot.columns ≠ 0 → ahead ≤ 0 ∧ 0 < ahead + slot.columns) ∧
        Fits slot.rows (ahead + slot.columns - 1) slots

theorem fits_nil {rows : Nat} {ahead : Int} : Fits rows ahead [] ↔ ahead = 0 := Iff.rfl

theorem fits_cons {rows : Nat} {ahead : Int} {slot : Slot} {slots : List Slot} :
    Fits rows ahead (slot :: slots) ↔
      (slot.rows ≠ rows → ahead = 0) ∧
        (slot.columns ≠ 0 → ahead ≤ 0 ∧ 0 < ahead + slot.columns) ∧
          Fits slot.rows (ahead + slot.columns - 1) slots := Iff.rfl

/-- Slots of one column each fit. -/
theorem fits_of_columns_eq_one {slots : List Slot} (h : ∀ slot ∈ slots, slot.columns = 1)
    (rows : Nat) : Fits rows 0 slots := by
  induction slots generalizing rows with
  | nil => rfl
  | cons slot slots ih =>
    rw [List.forall_mem_cons] at h
    rw [fits_cons, h.1]
    exact ⟨fun _ => rfl, fun _ => by omega, ih h.2 slot.rows⟩

/-- What fits in place of the end of a row fits in the row. -/
theorem Fits.append_congr {slots slots' : List Slot}
    (h : ∀ rows ahead, Fits rows ahead slots → Fits rows ahead slots') (before : List Slot)
    {rows : Nat} {ahead : Int} (hfits : Fits rows ahead (before ++ slots)) :
    Fits rows ahead (before ++ slots') := by
  induction before generalizing rows ahead with
  | nil => exact h _ _ hfits
  | cons slot before ih => exact ⟨hfits.1, hfits.2.1, ih hfits.2.2⟩

/-! ## One step -/

/-- The slots that merging passes over: those over the given rows that have no columns. -/
def Passed (rows : Nat) (slots : List Slot) : Prop :=
  ∀ slot ∈ slots, slot.rows = rows ∧ slot.columns = 0

/-- What the search for the nearest slot finds. -/
theorem widenNearest_eq_some {rows : Nat} {more : UInt32} {slots widened : List Slot}
    (h : widenNearest rows more slots = some widened) :
    ∃ passed slot rest, slots = passed ++ slot :: rest ∧
      widened = passed ++ slot.widen more :: rest ∧ Passed rows passed ∧ slot.rows = rows ∧
        slot.columns ≠ 0 := by
  induction slots generalizing widened with
  | nil => simp [widenNearest] at h
  | cons slot slots ih =>
    rw [widenNearest] at h
    split at h
    · exact absurd h (by simp)
    · next hrows =>
      have hrows : slot.rows = rows := by
        simp only [Bool.or_eq_true, bne_iff_ne, ne_eq, not_or, Decidable.not_not] at hrows
        exact hrows.2
      split at h
      · next hcolumns =>
        obtain ⟨widened, hwidened, rfl⟩ := Option.map_eq_some_iff.1 h
        obtain ⟨passed, nearest, rest, rfl, rfl, hpassed, hnearest⟩ := ih hwidened
        exact ⟨slot :: passed, nearest, rest, rfl, rfl,
          List.forall_mem_cons.2 ⟨⟨hrows, hcolumns⟩, hpassed⟩, hnearest⟩
      · next hcolumns =>
        obtain rfl := Option.some.inj h
        exact ⟨[], slot, slots, rfl, rfl, by simp [Passed], hrows, hcolumns⟩

/-- Whether an empty slot can give its columns to another one over as many rows. -/
structure CanGive (slot target : Slot) : Prop where
  isBlank : slot.isBlank = true
  isCovered : slot.isCovered = false
  rows_eq : target.rows = slot.rows
  columns_ne_zero : target.columns ≠ 0

/-- Whether the first of two slots or the second one gives its columns to the other, where the first
stands on the left. -/
inductive Gives : Slot → Slot → Slot → Slot → Prop
  | left {target slot : Slot} (h : CanGive slot target) :
      Gives target slot (target.widen slot.width) slot.underSide
  | right {slot target : Slot} (h : CanGive slot target) :
      Gives slot target slot.underSide (target.widen slot.width)

/-- **One step of merging**: one of two slots gives its columns to the other, and between them are
only slots without columns. -/
inductive Folds : List Slot → List Slot → Prop
  | intro {before passed after : List Slot} {first second first' second' : Slot}
      (hpassed : Passed second.rows passed) (hgives : Gives first second first' second') :
      Folds (before ++ first :: (passed ++ second :: after))
        (before ++ first' :: (passed ++ second' :: after))

/-- What folding does to the row. -/
theorem folds_fold? {direction : CellMerge} {before after before' after' : List Slot} {slot : Slot}
    (h : fold? direction before slot after = some (before', after')) :
    Folds (before.reverse ++ slot :: after) (before'.reverse ++ slot.underSide :: after') := by
  obtain ⟨hcovered, hblank, ⟨-, hwidened, rfl⟩ | ⟨-, rfl, hwidened⟩⟩ := fold?_eq_some h
  · obtain ⟨passed, target, rest, rfl, rfl, hpassed, hrows, hcolumns⟩ :=
      widenNearest_eq_some hwidened
    have hreverse : Passed slot.rows passed.reverse := fun passed hmem =>
      hpassed passed (List.mem_reverse.1 hmem)
    simp only [List.reverse_append, List.reverse_cons, List.append_assoc, List.cons_append,
      List.nil_append]
    exact .intro hreverse (.left ⟨hblank, hcovered, hrows, hcolumns⟩)
  · obtain ⟨passed, target, rest, rfl, rfl, hpassed, hrows, hcolumns⟩ :=
      widenNearest_eq_some hwidened
    rw [← hrows] at hpassed
    exact .intro hpassed (.right ⟨hblank, hcovered, hrows, hcolumns⟩)

/-- **A run of merging** is a sequence of steps. -/
theorem folds_mergeFrom (done : List Slot) (directions : List CellMerge) (slots : List Slot) :
    Relation.ReflTransGen Folds (done.reverse ++ slots) (mergeFrom done directions slots) := by
  fun_induction mergeFrom done directions slots with
  | case1 done direction directions slot slots done' slots' hfold ih =>
    rw [List.reverse_cons, ← List.append_cons] at ih
    exact .head (folds_fold? hfold) ih
  | case2 done direction directions slot slots _ ih =>
    rwa [List.reverse_cons, ← List.append_cons] at ih
  | case3 => exact .refl

theorem folds_mergeRow (directions : List CellMerge) (row : List Slot) :
    Relation.ReflTransGen Folds row (mergeRow directions row) :=
  folds_mergeFrom [] directions row

/-! ## The columns of a row -/

/-- Two slots have as many columns as before, apart from what a word cannot count. -/
theorem Gives.exists_columns_eq {first second first' second' : Slot}
    (h : Gives first second first' second') :
    ∃ lost, first.columns + second.columns =
      first'.columns + second'.columns + lost * UInt32.size := by
  have hwiden (target slot : Slot) :
      ∃ lost, target.columns + slot.columns =
        (target.widen slot.width).columns + lost * UInt32.size := by
    refine ⟨(target.columns + slot.columns) / UInt32.size, ?_⟩
    rw [Slot.columns_widen]
    exact (Nat.mod_add_div' _ _).symm
  cases h with
  | left =>
    obtain ⟨lost, hlost⟩ := hwiden first second
    exact ⟨lost, hlost⟩
  | right =>
    obtain ⟨lost, hlost⟩ := hwiden second first
    exact ⟨lost, by rw [Nat.add_comm, hlost]; exact congrArg (· + _) (Nat.zero_add _).symm⟩

theorem Folds.exists_sum_eq {row row' : List Slot} (h : Folds row row') :
    ∃ lost, (row.map Slot.columns).sum = (row'.map Slot.columns).sum + lost * UInt32.size := by
  obtain ⟨-, hgives⟩ := h
  obtain ⟨lost, hlost⟩ := hgives.exists_columns_eq
  refine ⟨lost, ?_⟩
  simp only [List.map_append, List.map_cons, List.sum_append, List.sum_cons]
  omega

/-- Every step can only lose columns. -/
theorem exists_sum_eq_of_folds {row row' : List Slot} (h : Relation.ReflTransGen Folds row row') :
    ∃ lost, (row.map Slot.columns).sum = (row'.map Slot.columns).sum + lost * UInt32.size := by
  induction h with
  | refl => exact ⟨0, by rw [Nat.zero_mul, Nat.add_zero]⟩
  | tail _ hstep ih =>
    obtain ⟨lost, hlost⟩ := ih
    obtain ⟨lost', hlost'⟩ := hstep.exists_sum_eq
    exact ⟨lost' + lost, by rw [hlost, hlost', Nat.add_mul, Nat.add_assoc]⟩

/-- A run that loses no columns loses none on the way. -/
theorem sum_eq_of_folds {row between row' : List Slot}
    (h : Relation.ReflTransGen Folds row between) (h' : Relation.ReflTransGen Folds between row')
    (hkept : (row'.map Slot.columns).sum = (row.map Slot.columns).sum) :
    (between.map Slot.columns).sum = (row.map Slot.columns).sum ∧
      (row'.map Slot.columns).sum = (between.map Slot.columns).sum := by
  obtain ⟨lost, hlost⟩ := exists_sum_eq_of_folds h
  obtain ⟨lost', hlost'⟩ := exists_sum_eq_of_folds h'
  omega

/-- **Merging keeps the columns of a row together**, apart from what words cannot count. -/
theorem exists_sum_eq_mergeRow (directions : List CellMerge) (row : List Slot) :
    ∃ lost, (row.map Slot.columns).sum =
      ((mergeRow directions row).map Slot.columns).sum + lost * UInt32.size :=
  exists_sum_eq_of_folds (folds_mergeRow directions row)

/-- What falls short of a number that a word can count by a multiple of the word size is the number
itself. -/
theorem eq_of_eq_add_mul_size {n total : Nat} (h : ∃ lost, total = n + lost * UInt32.size)
    (htotal : total < UInt32.size) : n = total := by
  obtain ⟨lost, rfl⟩ := h
  rcases Nat.eq_zero_or_pos lost with rfl | hpos
  · rw [Nat.zero_mul, Nat.add_zero]
  · have := Nat.le_mul_of_pos_left UInt32.size hpos
    omega

/-- Merging keeps the columns of a row together if a word can count them. -/
theorem sum_columns_mergeRow (directions : List CellMerge) {row : List Slot}
    (h : (row.map Slot.columns).sum < UInt32.size) :
    ((mergeRow directions row).map Slot.columns).sum = (row.map Slot.columns).sum :=
  eq_of_eq_add_mul_size (exists_sum_eq_mergeRow directions row) h

/-! ## Rows that lose no columns -/

/-- Whether two slots over as many rows have moved all their columns into one of them. -/
structure Moved (first second first' second' : Slot) : Prop where
  rows_eq : first.rows = second.rows
  rows_first : first'.rows = first.rows
  rows_second : second'.rows = second.rows
  columns_first : first.columns ≠ 0
  columns_second : second.columns ≠ 0
  columns : first'.columns = 0 ∧ second'.columns = first.columns + second.columns ∨
    first'.columns = first.columns + second.columns ∧ second'.columns = 0

theorem Moved.columns_ne_zero {first second first' second' : Slot}
    (h : Moved first second first' second') : first'.columns ≠ 0 ∨ second'.columns ≠ 0 := by
  have hfirst := h.columns_first
  rcases h.columns with ⟨-, hall⟩ | ⟨hall, -⟩
  · exact .inr (by omega)
  · exact .inl (by omega)

theorem columns_ne_zero_of_isCovered_eq_false {slot : Slot} (h : slot.isCovered = false) :
    slot.columns ≠ 0 := by
  intro hzero
  simp [Slot.isCovered, hzero] at h

/-- Where no columns are lost, they are all moved. -/
theorem Gives.moved {first second first' second' : Slot} (h : Gives first second first' second')
    (hcolumns : first'.columns + second'.columns = first.columns + second.columns) :
    Moved first second first' second' := by
  cases h with
  | left hcan =>
    exact ⟨hcan.rows_eq, rfl, rfl, hcan.columns_ne_zero,
      columns_ne_zero_of_isCovered_eq_false hcan.isCovered, .inr ⟨hcolumns, rfl⟩⟩
  | right hcan =>
    exact ⟨hcan.rows_eq.symm, rfl, rfl, columns_ne_zero_of_isCovered_eq_false hcan.isCovered,
      hcan.columns_ne_zero, .inl ⟨rfl, (Nat.zero_add _).symm.trans hcolumns⟩⟩

/-- **What a step keeps that moves all columns, merging keeps** if the row loses none.  As no step
can add columns to the row, none of them loses any. -/
theorem induction_of_folds {P : List Slot → Prop} {row row' : List Slot}
    (hstep : ∀ {before passed after : List Slot} {first second first' second' : Slot},
      Passed second.rows passed → Gives first second first' second' →
      Moved first second first' second' → P (before ++ first :: (passed ++ second :: after)) →
        P (before ++ first' :: (passed ++ second' :: after)))
    (h : Relation.ReflTransGen Folds row row')
    (hkept : (row'.map Slot.columns).sum = (row.map Slot.columns).sum) (hrow : P row) : P row' := by
  induction h with
  | refl => exact hrow
  | tail hrun hlast ih =>
    obtain ⟨hbefore, hsame⟩ := sum_eq_of_folds hrun (.single hlast) hkept
    obtain ⟨hpassed, hgives⟩ := hlast
    refine hstep hpassed hgives (hgives.moved ?_) (ih hbefore)
    simp only [List.map_append, List.map_cons, List.sum_append, List.sum_cons] at hsame
    omega

theorem fits_passed_append {rows : Nat} {ahead : Int} {passed slots : List Slot}
    (h : Passed rows passed) :
    Fits rows ahead (passed ++ slots) ↔ Fits rows (ahead - passed.length) slots := by
  induction passed generalizing ahead with
  | nil => simp
  | cons slot passed ih =>
    have hcons := List.forall_mem_cons.1 h
    have hahead : ahead - 1 - passed.length = ahead - (slot :: passed).length := by
      rw [List.length_cons]
      omega
    simp only [List.cons_append, fits_cons, hcons.1.1, hcons.1.2, ne_eq, not_true_eq_false,
      false_implies, true_and, Int.natCast_zero, Int.add_zero]
    rw [ih hcons.2, hahead]

/-- Columns may be moved between two slots with none between them. -/
theorem Fits.move {rows : Nat} {ahead : Int} {first second first' second' : Slot}
    {passed rest : List Slot} (hpassed : Passed second.rows passed)
    (hmoved : Moved first second first' second')
    (h : Fits rows ahead (first :: (passed ++ second :: rest))) :
    Fits rows ahead (first' :: (passed ++ second' :: rest)) := by
  obtain ⟨hrows, hfirst, hrest⟩ := h
  rw [hmoved.rows_eq, fits_passed_append hpassed, fits_cons] at hrest
  obtain ⟨-, hsecond, hrest⟩ := hrest
  have hfirst := hfirst hmoved.columns_first
  have hsecond := hsecond hmoved.columns_second
  have hsum : first'.columns + second'.columns = first.columns + second.columns := by
    rcases hmoved.columns with ⟨hzero, hall⟩ | ⟨hall, hzero⟩ <;> omega
  have hahead : ahead + first'.columns - 1 - passed.length + second'.columns - 1 =
      ahead + first.columns - 1 - passed.length + second.columns - 1 := by
    omega
  refine ⟨hmoved.rows_first ▸ hrows, fun hne => ?_, ?_⟩
  · rcases hmoved.columns with ⟨hzero, hall⟩ | ⟨hall, hzero⟩ <;> omega
  · rw [hmoved.rows_first, hmoved.rows_eq, fits_passed_append hpassed, fits_cons, hahead,
      hmoved.rows_second]
    refine ⟨fun hne => absurd rfl hne, fun hne => ?_, hrest⟩
    rcases hmoved.columns with ⟨hzero, hall⟩ | ⟨hall, hzero⟩ <;> omega

/-- **Merging keeps the fit** of a row that loses no columns. -/
theorem fits_mergeRow {rows : Nat} {ahead : Int} (directions : List CellMerge) {row : List Slot}
    (hkept : ((mergeRow directions row).map Slot.columns).sum = (row.map Slot.columns).sum)
    (h : Fits rows ahead row) : Fits rows ahead (mergeRow directions row) :=
  induction_of_folds
    (fun hpassed _ hmoved => Fits.append_congr (fun _ _ => Fits.move hpassed hmoved) _)
    (folds_mergeRow directions row) hkept h

/-! ## What merging keeps of each slot -/

section Keeps

variable {α : Type} {f : Slot → α} (hwiden : ∀ slot more, f (slot.widen more) = f slot)
  (hunder : ∀ slot, f slot.underSide = f slot)

include hwiden hunder

/-- What does not depend on the columns of a slot is not changed by merging. -/
theorem map_mergeRow (directions : List CellMerge) (row : List Slot) :
    (mergeRow directions row).map f = row.map f := by
  have hgives {first second first' second' : Slot} (h : Gives first second first' second') :
      f first' = f first ∧ f second' = f second := by
    cases h with
    | left => exact ⟨hwiden _ _, hunder _⟩
    | right => exact ⟨hunder _, hwiden _ _⟩
  have hrun := folds_mergeRow directions row
  generalize mergeRow directions row = merged at hrun
  induction hrun with
  | refl => rfl
  | tail _ hstep ih =>
    obtain ⟨-, h⟩ := hstep
    rw [← ih]
    simp only [List.map_append, List.map_cons, hgives h]

end Keeps

/-- **Merging changes no rows.** -/
@[simp] theorem map_rows_mergeRow (directions : List CellMerge) (row : List Slot) :
    (mergeRow directions row).map Slot.rows = row.map Slot.rows :=
  map_mergeRow (fun _ _ => rfl) (fun _ => rfl) directions row

/-- A property of the slots is kept by merging, where the row loses no columns, if a slot keeps it
that has taken over columns and still has some, and an empty one that gives its columns away. -/
theorem forall_mergeRow {P : Slot → Prop}
    (hwiden : ∀ slot more, (slot.widen more).columns ≠ 0 → P slot → P (slot.widen more))
    (hunder : ∀ slot, slot.isBlank = true → slot.isBelow = false → P slot → P slot.underSide)
    {directions : List CellMerge} {row : List Slot}
    (hkept : ((mergeRow directions row).map Slot.columns).sum = (row.map Slot.columns).sum)
    (hrow : ∀ slot ∈ row, P slot) : ∀ slot ∈ mergeRow directions row, P slot := by
  have hgive {slot target : Slot} (hcan : CanGive slot target) (h : P slot) : P slot.underSide :=
    hunder slot hcan.isBlank (Bool.or_eq_false_iff.1 hcan.isCovered).1 h
  have hpair {first second first' second' : Slot} (hgives : Gives first second first' second')
      (hmoved : Moved first second first' second') (h : P first) (h' : P second) :
      P first' ∧ P second' := by
    have hsome := hmoved.columns_ne_zero
    cases hgives with
    | left hcan => exact ⟨hwiden _ _ (hsome.resolve_right fun hne => hne rfl) h, hgive hcan h'⟩
    | right hcan => exact ⟨hgive hcan h, hwiden _ _ (hsome.resolve_left fun hne => hne rfl) h'⟩
  refine induction_of_folds (P := fun row => ∀ slot ∈ row, P slot)
    (fun _ hgives hmoved hslots => ?_) (folds_mergeRow directions row) hkept hrow
  simp only [List.forall_mem_append, List.forall_mem_cons] at hslots ⊢
  obtain ⟨hbefore, hfirst, hpassed, hsecond, hafter⟩ := hslots
  obtain ⟨hfirst', hsecond'⟩ := hpair hgives hmoved hfirst hsecond
  exact ⟨hbefore, hfirst', hpassed, hsecond', hafter⟩

/-! ## Rows by their places -/

/-- How many rows the slot in a column of a row covers. -/
def rowsIn (row : List Slot) (c : Nat) : Nat :=
  row[c]?.elim 0 Slot.rows

/-- How many columns the slot in a column of a row covers. -/
def columnsIn (row : List Slot) (c : Nat) : Nat :=
  row[c]?.elim 0 Slot.columns

theorem columnsIn_cons_zero (slot : Slot) (row : List Slot) :
    columnsIn (slot :: row) 0 = slot.columns := rfl

theorem columnsIn_cons_succ (slot : Slot) (row : List Slot) (c : Nat) :
    columnsIn (slot :: row) (c + 1) = columnsIn row c := rfl

theorem start_columnsIn_cons (slot : Slot) (row : List Slot) (c : Nat) :
    Spans.start (columnsIn (slot :: row)) (c + 1) =
      slot.columns + Spans.start (columnsIn row) c :=
  Spans.start_succ_eq_add _ _

/-- **Rows with separators.**  The cells fill the row, each over its own place, and where the sort
of the columns changes, the cells so far fill the places so far. -/
structure Separated {κ : Type} (width : Nat) (sort : Nat → κ) (widths : Nat → Nat) : Prop extends
    Spans.Balanced width widths where
  apart : ∀ c, c + 1 < width → sort c ≠ sort (c + 1) → Spans.start widths (c + 1) = c + 1

/-- A row that fits, by its places. -/
theorem Fits.places {rows : Nat} {ahead : Int} {row : List Slot} (h : Fits rows ahead row) :
    (∀ c < row.length, columnsIn row c ≠ 0 →
      Spans.start (columnsIn row) c + ahead ≤ c ∧
        c < Spans.start (columnsIn row) c + ahead + columnsIn row c) ∧
    (∀ c, c + 1 < row.length → rowsIn row c ≠ rowsIn row (c + 1) →
      Spans.start (columnsIn row) (c + 1) + ahead = (c + 1 : Nat)) ∧
    Spans.start (columnsIn row) row.length + ahead = row.length := by
  induction row generalizing rows ahead with
  | nil =>
    rw [fits_nil] at h
    refine ⟨fun c hc => absurd hc (Nat.not_lt_zero c),
      fun c hc => absurd hc (Nat.not_lt_zero _), ?_⟩
    rw [List.length_nil, Spans.start_zero, h]
    rfl
  | cons slot row ih =>
    obtain ⟨-, hown, hrest⟩ := h
    obtain ⟨hownRest, hapartRest, htotalRest⟩ := ih hrest
    refine ⟨?_, ?_, ?_⟩
    · rintro (_ | c) hc hcolumns
      · have := hown hcolumns
        rw [columnsIn_cons_zero, Spans.start_zero]
        omega
      · have := hownRest c (Nat.lt_of_succ_lt_succ hc) hcolumns
        rw [start_columnsIn_cons, columnsIn_cons_succ]
        omega
    · rintro (_ | c) hc hsort
      · -- the next slot covers other rows, so it begins in its own place
        cases row with
        | nil => exact absurd hc (Nat.lt_irrefl 1)
        | cons next row =>
          have := hrest.1 (Ne.symm hsort)
          rw [start_columnsIn_cons, Spans.start_zero]
          omega
      · have := hapartRest c (Nat.lt_of_succ_lt_succ hc) hsort
        rw [start_columnsIn_cons]
        omega
    · rw [List.length_cons, start_columnsIn_cons]
      omega

/-- **A row that fits is a row with separators** where the number of rows changes. -/
theorem Fits.separated {rows : Nat} {row : List Slot} (h : Fits rows 0 row) :
    Separated row.length (rowsIn row) (columnsIn row) := by
  obtain ⟨hown, hapart, htotal⟩ := h.places
  refine ⟨⟨fun c hc hcolumns => ?_, by omega⟩, fun c hc hsort => ?_⟩
  · have := hown c hc hcolumns
    omega
  · have := hapart c hc hsort
    omega

/-- Columns may be told apart less finely. -/
theorem Separated.of_sort {κ κ' : Type} {width : Nat} {sort : Nat → κ} {sort' : Nat → κ'}
    {widths : Nat → Nat} (h : Separated width sort widths)
    (hsort : ∀ c, c + 1 < width → sort' c ≠ sort' (c + 1) → sort c ≠ sort (c + 1)) :
    Separated width sort' widths :=
  ⟨h.toBalanced, fun c hc hne => h.apart c hc (hsort c hc hne)⟩

/-- **Several rows in one.**  Columns of two sorts may be taken from two rows that are separated
where the sort changes. -/
theorem Separated.mix {width : Nat} {sort : Nat → Bool} {widths widths' : Nat → Nat}
    (h : Separated width sort widths) (h' : Separated width sort widths') :
    Spans.Balanced width fun c => if sort c then widths c else widths' c := by
  have hnext (c : Nat)
      (ih : Spans.start (fun c => if sort c then widths c else widths' c) c =
        if sort c then Spans.start widths c else Spans.start widths' c) :
      Spans.start (fun c => if sort c then widths c else widths' c) (c + 1) =
        if sort c then Spans.start widths (c + 1) else Spans.start widths' (c + 1) := by
    rw [Spans.start_succ, ih]
    cases sort c <;> rfl
  -- a cell begins where it does in the row that it is taken from
  have hstart (c : Nat) (hc : c < width) :
      Spans.start (fun c => if sort c then widths c else widths' c) c =
        if sort c then Spans.start widths c else Spans.start widths' c := by
    induction c with
    | zero => cases sort 0 <;> rfl
    | succ c ih =>
      rw [hnext c (ih (by omega))]
      by_cases hsort : sort c = sort (c + 1)
      · rw [hsort]
      · rw [h.apart c hc hsort, h'.apart c hc hsort, ite_self, ite_self]
  constructor
  · intro c hc hcolumns
    rw [hstart c hc]
    by_cases hsort : sort c = true
    · simp only [hsort, if_true] at hcolumns ⊢
      exact h.own c hc hcolumns
    · simp only [hsort, Bool.false_eq_true, if_false] at hcolumns ⊢
      exact h'.own c hc hcolumns
  · cases width with
    | zero => rfl
    | succ c =>
      rw [hnext c (hstart c (Nat.lt_succ_self c)), h.total, h'.total, ite_self]

end Table

end Bindery
