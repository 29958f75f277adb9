import Mathlib.Logic.ExistsUnique
import Mathlib.Tactic.ByContra

/-!
# When the cells of a grid tile it

The grid of a table is given by two numbers for each of its places: how many rows and how many
columns the cell there covers.  A cell begins in its own row, but the numbers do not say in which
column it begins, because a cell may have grown to the left as well as to the right.  A *tiling*
chooses the column in which each cell begins, such that the cell covers its own place and every
place of the grid is covered by exactly one cell.

## Which grids have one

Two things have to be right on their own for there to be any choice.

* Down each column, the cells must be *stacked*: every row is covered exactly once
  (`Spans.Stacked`).
* Along each row, the cells that are held over the row, be it from above, must be *balanced*: taken
  in order they fill the row, each of them over its own place (`Spans.Balanced`).

The second leaves no choice within a row: the cells stand one after the other, so each begins where
the widths before it add up to (`Spans.start`).  So the only thing that can still go wrong is that a
cell over several rows would have to begin at one column in one row and at another column in the
next.  A grid in which that does not happen is *aligned*, and `Spans.tiled_iff_aligned` says that
these are the grids that can be tiled.
-/

namespace Bindery

namespace Table

/-- How many rows and columns the cells of a grid cover.  A cell that covers none of one of them is
covered by a neighbour itself. -/
structure Spans where
  height : Nat
  width : Nat
  /-- How many rows the cell in this row and column covers. -/
  rows : Nat → Nat → Nat
  /-- How many columns the cell in this row and column covers. -/
  columns : Nat → Nat → Nat

namespace Spans

/-- Where the cells of a row begin that have these widths and stand one after the other. -/
def start (widths : Nat → Nat) : Nat → Nat
  | 0 => 0
  | c + 1 => start widths c + widths c

@[simp] theorem start_zero (widths : Nat → Nat) : start widths 0 = 0 := rfl

theorem start_succ (widths : Nat → Nat) (c : Nat) :
    start widths (c + 1) = start widths c + widths c := rfl

/-- Where the cells begin of which the first one is set apart. -/
theorem start_succ_eq_add (widths : Nat → Nat) (c : Nat) :
    start widths (c + 1) = widths 0 + start (fun c => widths (c + 1)) c := by
  induction c with
  | zero => rw [start_succ, start_zero, start_zero, Nat.zero_add, Nat.add_zero]
  | succ c ih => rw [start_succ, ih, start_succ, Nat.add_assoc]

theorem start_mono (widths : Nat → Nat) {c c' : Nat} (h : c ≤ c') :
    start widths c ≤ start widths c' := by
  induction h with
  | refl => exact Nat.le_refl _
  | step _ ih => exact Nat.le_trans ih (Nat.le_add_right _ _)

theorem start_congr {widths widths' : Nat → Nat} {c : Nat}
    (h : ∀ c' < c, widths c' = widths' c') : start widths c = start widths' c := by
  induction c with
  | zero => rfl
  | succ c ih =>
    rw [start_succ, start_succ, h c (Nat.lt_succ_self c),
      ih fun c' hc' => h c' (Nat.lt_succ_of_lt hc')]

/-- A place that the first cells reach lies in one of them. -/
theorem exists_start_le {widths : Nat → Nat} {width j : Nat} (h : j < start widths width) :
    ∃ c < width, start widths c ≤ j ∧ j < start widths c + widths c := by
  induction width with
  | zero => exact absurd h (Nat.not_lt_zero j)
  | succ width ih =>
    by_cases hj : j < start widths width
    · obtain ⟨c, hc, hcover⟩ := ih hj
      exact ⟨c, Nat.lt_succ_of_lt hc, hcover⟩
    · exact ⟨width, Nat.lt_succ_self width, Nat.le_of_not_lt hj, h⟩

/-- No place lies in two of the cells. -/
theorem eq_of_start_le {widths : Nat → Nat} {c c' j : Nat}
    (h : start widths c ≤ j ∧ j < start widths c + widths c)
    (h' : start widths c' ≤ j ∧ j < start widths c' + widths c') : c = c' := by
  rcases Nat.lt_trichotomy c c' with hlt | heq | hgt
  · have := start_mono widths (Nat.succ_le_of_lt hlt)
    rw [start_succ] at this
    omega
  · exact heq
  · have := start_mono widths (Nat.succ_le_of_lt hgt)
    rw [start_succ] at this
    omega

/-- **Balanced rows.**  The cells of a row fill it, each of them over its own place. -/
structure Balanced (width : Nat) (widths : Nat → Nat) : Prop where
  own : ∀ c < width, widths c ≠ 0 → start widths c ≤ c ∧ c < start widths c + widths c
  total : start widths width = width

theorem Balanced.congr {width : Nat} {widths widths' : Nat → Nat} (h : Balanced width widths)
    (heq : ∀ c < width, widths' c = widths c) : Balanced width widths' := by
  have hstart {c : Nat} (hc : c ≤ width) : start widths' c = start widths c :=
    start_congr fun c' hc' => heq c' (Nat.lt_of_lt_of_le hc' hc)
  refine ⟨fun c hc hne => ?_, ?_⟩
  · rw [heq c hc] at hne ⊢
    rw [hstart (Nat.le_of_lt hc)]
    exact h.own c hc hne
  · rw [hstart (Nat.le_refl width)]
    exact h.total

/-- **Stacked columns.**  The cells of a column cover every row exactly once. -/
structure Stacked (height : Nat) (rows : Nat → Nat) : Prop where
  inside : ∀ r < height, r + rows r ≤ height
  covered : ∀ i < height, ∃! r, r ≤ i ∧ i < r + rows r

variable (spans : Spans)

/-! ## Tilings -/

/-- Whether a cell is drawn, and not covered by a neighbour. -/
structure Live (r c : Nat) : Prop where
  row_lt : r < spans.height
  column_lt : c < spans.width
  rows_ne_zero : spans.rows r c ≠ 0
  columns_ne_zero : spans.columns r c ≠ 0

/-- Whether a cell that is drawn from this column on covers a place. -/
structure Covers (left : Nat → Nat → Nat) (r c i j : Nat) : Prop where
  live : spans.Live r c
  top : r ≤ i
  bottom : i < r + spans.rows r c
  front : left r c ≤ j
  back : j < left r c + spans.columns r c

/-- **Tilings.**  If every cell that is drawn begins in the column that is said, then it covers its
own place and stays inside the grid, and the cells cover every place of the grid exactly once. -/
structure Tiling (left : Nat → Nat → Nat) : Prop where
  own : ∀ r c, spans.Live r c → spans.Covers left r c r c
  inside : ∀ r c, spans.Live r c →
    r + spans.rows r c ≤ spans.height ∧ left r c + spans.columns r c ≤ spans.width
  covered : ∀ i < spans.height, ∀ j < spans.width, ∃ r c, spans.Covers left r c i j
  disjoint : ∀ i j r c r' c', spans.Covers left r c i j → spans.Covers left r' c' i j →
    r = r' ∧ c = c'

/-- Whether the cells can be drawn so that they tile the grid. -/
def Tiled : Prop :=
  ∃ left, spans.Tiling left

/-- How many columns the cell covers that is held over this row in this column: the cell there, or
the one above that covers it. -/
def held : Nat → Nat → Nat
  | 0, c => spans.columns 0 c
  | i + 1, c => if spans.rows (i + 1) c = 0 then held i c else spans.columns (i + 1) c

/-- **Aligned grids.**  A cell that is held over the next row as well begins there in the column in
which it has begun. -/
def Aligned : Prop :=
  ∀ i c, i + 1 < spans.height → c < spans.width → spans.rows (i + 1) c = 0 → spans.held i c ≠ 0 →
    start (spans.held (i + 1)) c = start (spans.held i) c

theorem held_zero (c : Nat) : spans.held 0 c = spans.columns 0 c := rfl

theorem held_succ (i c : Nat) :
    spans.held (i + 1) c =
      if spans.rows (i + 1) c = 0 then spans.held i c else spans.columns (i + 1) c := rfl

variable {spans} {left : Nat → Nat → Nat} {r c i j : Nat}

/-- The cell that covers a row down a column is the one that is held over it. -/
theorem held_eq_columns (htop : r ≤ i) (hbottom : i < r + spans.rows r c)
    (hcolumn : Stacked spans.height fun r => spans.rows r c) (hi : i < spans.height) :
    spans.held i c = spans.columns r c := by
  induction i with
  | zero =>
    obtain rfl : r = 0 := Nat.le_zero.1 htop
    rfl
  | succ i ih =>
    obtain ⟨r', -, hunique⟩ := hcolumn.covered (i + 1) hi
    rw [held_succ]
    split
    · next hrows =>
      -- the cell has begun further up, as the one in this row covers none
      have hne : r ≠ i + 1 := by
        rintro rfl
        omega
      exact ih (by omega) (by omega) (by omega)
    · next hrows =>
      have hown := hunique (i + 1) ⟨Nat.le_refl _, by omega⟩
      have hr := hunique r ⟨htop, hbottom⟩
      rw [hr, ← hown]

/-- Below its first row, a cell covers places of which none has a cell of its own rows. -/
theorem rows_eq_zero_of_covered (htop : r ≤ i) (hbottom : i + 1 < r + spans.rows r c)
    (hcolumn : Stacked spans.height fun r => spans.rows r c) (hi : i + 1 < spans.height) :
    spans.rows (i + 1) c = 0 := by
  obtain ⟨r', -, hunique⟩ := hcolumn.covered (i + 1) hi
  by_contra hrows
  have hown := hunique (i + 1) ⟨Nat.le_refl _, by omega⟩
  have hr := hunique r ⟨by omega, hbottom⟩
  omega

/-- In an aligned grid, a cell begins in the same column in all of its rows. -/
theorem Aligned.start_eq (h : spans.Aligned) (htop : r ≤ i) (hbottom : i < r + spans.rows r c)
    (hcolumn : Stacked spans.height fun r => spans.rows r c) (hi : i < spans.height)
    (hc : c < spans.width) (hlive : spans.columns r c ≠ 0) :
    start (spans.held i) c = start (spans.held r) c := by
  induction htop with
  | refl => rfl
  | @step i htop ih =>
    have htop : r ≤ i := htop
    have hheld := held_eq_columns htop (by omega) hcolumn (by omega)
    rw [h i c hi hc (rows_eq_zero_of_covered htop hbottom hcolumn hi) (hheld ▸ hlive)]
    exact ih (by omega) (by omega)

/-! ## Aligned grids are tiled -/

section Theorem

variable (hstacked : ∀ c < spans.width, Stacked spans.height fun r => spans.rows r c)
  (hbalanced : ∀ i < spans.height, Balanced spans.width (spans.held i))

include hstacked hbalanced

/-- In an aligned grid the cells can be drawn one after the other in each row. -/
theorem Aligned.tiling (h : spans.Aligned) :
    spans.Tiling fun r c => start (spans.held r) c := by
  have hheld {r c : Nat} (hlive : spans.Live r c) : spans.held r c = spans.columns r c :=
    held_eq_columns (Nat.le_refl r) (by have := hlive.rows_ne_zero; omega)
      (hstacked c hlive.column_lt) hlive.row_lt
  have hown {r c : Nat} (hlive : spans.Live r c) :=
    (hbalanced r hlive.row_lt).own c hlive.column_lt (hheld hlive ▸ hlive.columns_ne_zero)
  refine ⟨fun r c hlive => ?_, fun r c hlive => ?_, fun i hi j hj => ?_, ?_⟩
  · obtain ⟨hfront, hback⟩ := hown hlive
    exact ⟨hlive, Nat.le_refl r, by have := hlive.rows_ne_zero; omega, hfront,
      hheld hlive ▸ hback⟩
  · have hend := start_mono (spans.held r) (Nat.succ_le_of_lt hlive.column_lt)
    rw [start_succ, (hbalanced r hlive.row_lt).total, hheld hlive] at hend
    exact ⟨(hstacked c hlive.column_lt).inside r hlive.row_lt, hend⟩
  · rw [← (hbalanced i hi).total] at hj
    obtain ⟨c, hc, hfront, hback⟩ := exists_start_le hj
    obtain ⟨r, ⟨htop, hbottom⟩, -⟩ := (hstacked c hc).covered i hi
    have hcolumns := held_eq_columns htop hbottom (hstacked c hc) hi
    have hne : spans.columns r c ≠ 0 := by omega
    have hstart := h.start_eq htop hbottom (hstacked c hc) hi hc hne
    exact ⟨r, c, ⟨by omega, hc, by omega, hne⟩, htop, hbottom, by omega, by omega⟩
  · -- two cells over one place are held over its row, where no place lies in two of the cells
    have hrow {i j r c : Nat} (hcovers : spans.Covers (fun r c => start (spans.held r) c) r c i j) :
        i < spans.height ∧ start (spans.held i) c ≤ j ∧
          j < start (spans.held i) c + spans.held i c := by
      obtain ⟨hlive, htop, hbottom, hfront, hback⟩ := hcovers
      have hcolumn := hstacked c hlive.column_lt
      have hi : i < spans.height := by
        have := hcolumn.inside r hlive.row_lt
        omega
      rw [held_eq_columns htop hbottom hcolumn hi,
        h.start_eq htop hbottom hcolumn hi hlive.column_lt hlive.columns_ne_zero]
      exact ⟨hi, hfront, hback⟩
    intro i j r c r' c' hcovers hcovers'
    obtain ⟨hi, hplace⟩ := hrow hcovers
    obtain ⟨-, hplace'⟩ := hrow hcovers'
    obtain rfl := eq_of_start_le hplace hplace'
    obtain ⟨_, -, hunique⟩ := (hstacked c hcovers.live.column_lt).covered i hi
    have hr := hunique r ⟨hcovers.top, hcovers.bottom⟩
    have hr' := hunique r' ⟨hcovers'.top, hcovers'.bottom⟩
    exact ⟨hr.trans hr'.symm, rfl⟩

/-! ## Tiled grids are aligned -/

omit hbalanced in
/-- A cell does not begin among the cells before it, if these stand one after the other. -/
theorem Tiling.start_le_left (h : spans.Tiling left) (hi : i < spans.height)
    (hcell : spans.Live r c) (htop : r ≤ i) (hbottom : i < r + spans.rows r c)
    (hbefore : ∀ c' < c, ∀ r', spans.Live r' c' → r' ≤ i → i < r' + spans.rows r' c' →
      left r' c' = start (spans.held i) c') : start (spans.held i) c ≤ left r c := by
  have hc := hcell.column_lt
  by_contra hlt
  obtain ⟨c', hc', hfront, hback⟩ := exists_start_le (Nat.lt_of_not_le hlt)
  obtain ⟨r', ⟨htop', hbottom'⟩, -⟩ := (hstacked c' (by omega)).covered i hi
  have hheld' := held_eq_columns htop' hbottom' (hstacked c' (by omega)) hi
  have hcell' : spans.Live r' c' := ⟨by omega, by omega, by omega, by omega⟩
  have hleft' := hbefore c' hc' r' hcell' htop' hbottom'
  have hthere : spans.Covers left r' c' i (left r c) :=
    ⟨hcell', htop', hbottom', by omega, by omega⟩
  have hhere : spans.Covers left r c i (left r c) :=
    ⟨hcell, htop, hbottom, Nat.le_refl _, Nat.lt_add_of_pos_right (by
      have := hcell.columns_ne_zero
      omega)⟩
  have := (h.disjoint _ _ _ _ _ _ hhere hthere).2
  omega

/-- A cell leaves no place open after the cells before it, if these stand one after the other. -/
theorem Tiling.left_le_start (h : spans.Tiling left) (hi : i < spans.height)
    (hcell : spans.Live r c) (htop : r ≤ i) (hbottom : i < r + spans.rows r c)
    (hbefore : ∀ c' < c, ∀ r', spans.Live r' c' → r' ≤ i → i < r' + spans.rows r' c' →
      left r' c' = start (spans.held i) c') : left r c ≤ start (spans.held i) c := by
  have hc := hcell.column_lt
  have hheld := held_eq_columns htop hbottom (hstacked c hc) hi
  have hne := hcell.columns_ne_zero
  have hown := h.own r c hcell
  have hwidth : start (spans.held i) c < spans.width := by
    have hend := start_mono (spans.held i) (Nat.succ_le_of_lt hc)
    rw [start_succ, (hbalanced i hi).total] at hend
    omega
  -- the place is covered by no cell before this one, and by none after it unless over this one
  obtain ⟨r', c', hcovers⟩ := h.covered i hi _ hwidth
  have hcell' := hcovers.live
  have hc' := hcell'.column_lt
  rcases Nat.lt_trichotomy c' c with hlt | rfl | hgt
  · have hheld' := held_eq_columns hcovers.top hcovers.bottom (hstacked c' hc') hi
    have hleft' := hbefore c' hlt r' hcell' hcovers.top hcovers.bottom
    have hback := hcovers.back
    have hend := start_mono (spans.held i) (Nat.succ_le_of_lt hlt)
    rw [start_succ] at hend
    omega
  · obtain ⟨_, -, hunique⟩ := (hstacked c' hc).covered i hi
    obtain rfl := (hunique r ⟨htop, hbottom⟩).trans (hunique r' ⟨hcovers.top, hcovers.bottom⟩).symm
    exact hcovers.front
  · by_contra hlt
    have hfront := hcovers.front
    have hfrontOwn := hown.front
    have hbackOwn := (h.own r' c' hcell').back
    have hthere : spans.Covers left r' c' i c :=
      ⟨hcell', hcovers.top, hcovers.bottom, by omega, by omega⟩
    have hhere : spans.Covers left r c i c := ⟨hcell, htop, hbottom, hfrontOwn, hown.back⟩
    have := (h.disjoint _ _ _ _ _ _ hhere hthere).2
    omega

/-- **A row leaves no choice.**  In a tiling, a cell begins where the widths of the cells before it
add up to, in every row over which it is held. -/
theorem Tiling.left_eq (h : spans.Tiling left) (hi : i < spans.height) (hcell : spans.Live r c)
    (htop : r ≤ i) (hbottom : i < r + spans.rows r c) : left r c = start (spans.held i) c := by
  induction c using Nat.strongRecOn generalizing r with
  | ind c ih =>
    exact Nat.le_antisymm
      (h.left_le_start hstacked hbalanced hi hcell htop hbottom fun c' hc' r' => ih c' hc')
      (h.start_le_left hstacked hi hcell htop hbottom fun c' hc' r' => ih c' hc')

/-- **A grid is tiled exactly if it is aligned**, once its columns are stacked and its rows are
balanced. -/
theorem tiled_iff_aligned : spans.Tiled ↔ spans.Aligned := by
  constructor
  · rintro ⟨left, h⟩ i c hi hc hrows hheld
    obtain ⟨r, ⟨htop, hbottom⟩, -⟩ := (hstacked c hc).covered (i + 1) hi
    have hne : r ≠ i + 1 := by
      rintro rfl
      omega
    have hcolumns :=
      held_eq_columns (r := r) (i := i) (by omega) (by omega) (hstacked c hc) (by omega)
    have hcell : spans.Live r c := ⟨by omega, hc, by omega, by omega⟩
    have hnext := h.left_eq hstacked hbalanced hi hcell htop hbottom
    have hthis := h.left_eq hstacked hbalanced (i := i) (by omega) hcell (by omega) (by omega)
    exact hnext.symm.trans hthis
  · intro h
    exact ⟨_, h.tiling hstacked hbalanced⟩

end Theorem

end Spans

end Table

end Bindery
