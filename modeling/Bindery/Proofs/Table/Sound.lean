import Bindery.Proofs.Table.RowJoin

/-!
# Sound grids

A grid is *sound* if its columns are stacked and what is held over its rows is balanced (`Sound`).
Such a grid can be tiled exactly if it is aligned (`Sound.tiled_iff`).

The grid of a scope is described by which of its columns *spread* over all rows of the scope.  A
column that spreads has its slot in the first row and is covered below it, and every other column
has a slot over one row in each row (`Upright`).  Joining goes down the columns that do not spread,
and after it all columns are stacked (`Upright.stacks_joinGrid`), whatever they cover along the
rows.

Merging goes along the rows and does not reach from a column that spreads into one that does not,
because their slots are over different rows; so every row is separated where the sort of the columns
changes (`Shape`).  What is held over a row after joining comes from the first row in the columns
that spread, and from the row itself in the others (`Shape.held_joinGrid`), and it is balanced
because both rows are separated there (`Separated.mix`).  So what was joined is sound
(`Shape.sound_joinGrid`), and sound grids may be put below each other (`Sound.append`).
-/

namespace Bindery

namespace Table

/-! ## Grids by their places -/

/-- The spans of a grid.  There are none outside the grid. -/
def spans (width : Nat) (grid : Grid) : Spans where
  height := grid.length
  width := width
  rows i := rowsIn (grid.getD i [])
  columns i := columnsIn (grid.getD i [])

theorem rowsIn_eq_getD (row : List Slot) (c : Nat) :
    rowsIn row c = (row.map Slot.rows).getD c 0 := by
  rw [rowsIn, List.getD_eq_getElem?_getD, List.getElem?_map]
  cases row[c]? <;> rfl

theorem columnsIn_eq_getD (row : List Slot) (c : Nat) :
    columnsIn row c = (row.map Slot.columns).getD c 0 := by
  rw [columnsIn, List.getD_eq_getElem?_getD, List.getElem?_map]
  cases row[c]? <;> rfl

/-- A slot by its row and its column. -/
theorem getElem?_getD_row (grid : Grid) (i c : Nat) :
    (grid.getD i [])[c]? = grid[i]?.bind fun row => row[c]? := by
  rw [List.getD_eq_getElem?_getD]
  cases grid[i]? <;> rfl

/-- A column of the grid is there in each of its rows. -/
theorem lt_length {width c : Nat} {grid : Grid} (h : ∀ row ∈ grid, row.length = width)
    (hc : c < width) : ∀ row ∈ grid, c < row.length :=
  fun row hrow => (h row hrow).symm ▸ hc

section Column

variable {grid : Grid} {c : Nat} (h : ∀ row ∈ grid, c < row.length)

include h

theorem rowsIn_column (i : Nat) : rowsIn (column grid c) i = rowsIn (grid.getD i []) c := by
  rw [rowsIn, rowsIn, getElem?_column h, getElem?_getD_row]

theorem columnsIn_column (i : Nat) :
    columnsIn (column grid c) i = columnsIn (grid.getD i []) c := by
  rw [columnsIn, columnsIn, getElem?_column h, getElem?_getD_row]

end Column

/-! ## Stacked columns -/

/-- A column of stacks covers every row of the grid exactly once. -/
theorem stacked_of_stacks {width : Nat} {grid : Grid}
    (hlength : ∀ row ∈ grid, row.length = width) {c : Nat} (hc : c < width)
    (hstacks : Stacks ((column grid c).map Slot.rows)) :
    Spans.Stacked grid.length fun r => (spans width grid).rows r c := by
  have hrows (r : Nat) :
      ((column grid c).map Slot.rows).getD r 0 = (spans width grid).rows r c := by
    rw [← rowsIn_eq_getD, rowsIn_column (lt_length hlength hc)]
    rfl
  have hstacked := hstacks.stacked
  rw [List.length_map, length_column (lt_length hlength hc)] at hstacked
  simpa only [hrows] using hstacked

/-! ## Sound grids -/

/-- **Sound grids.**  The rows have the same length, the columns are stacked, and what stands in
each row is balanced, and also what is held over it. -/
structure Sound (width : Nat) (grid : Grid) : Prop where
  length : ∀ row ∈ grid, row.length = width
  row_balanced : ∀ row ∈ grid, Spans.Balanced width (columnsIn row)
  stacking : ∀ c < width, Stacks ((column grid c).map Slot.rows)
  balanced : ∀ i < grid.length, Spans.Balanced width ((spans width grid).held i)

namespace Sound

variable {width : Nat} {grid grid' : Grid}

theorem stacked (h : Sound width grid) {c : Nat} (hc : c < width) :
    Spans.Stacked grid.length fun r => (spans width grid).rows r c :=
  stacked_of_stacks h.length hc (h.stacking c hc)

/-- **A sound grid is tiled exactly if it is aligned.** -/
theorem tiled_iff (h : Sound width grid) :
    (spans width grid).Tiled ↔ (spans width grid).Aligned :=
  Spans.tiled_iff_aligned (fun _ hc => h.stacked hc) h.balanced

theorem nil (width : Nat) : Sound width [] :=
  ⟨fun _ hrow => absurd hrow List.not_mem_nil, fun _ hrow => absurd hrow List.not_mem_nil,
    fun _ _ => .nil, fun i hi => absurd hi (Nat.not_lt_zero i)⟩

/-- Nothing is held over the first row from above. -/
theorem rows_zero_ne_zero (h : Sound width grid) (hne : grid ≠ []) {c : Nat} (hc : c < width) :
    (spans width grid).rows 0 c ≠ 0 := by
  have hcolumn : (column grid c).map Slot.rows ≠ [] := by
    rw [ne_eq, ← List.length_eq_zero_iff, List.length_map, length_column (lt_length h.length hc)]
    exact fun hzero => hne (List.length_eq_zero_iff.1 hzero)
  have hfirst := (h.stacking c hc).getD_zero hcolumn
  rwa [← rowsIn_eq_getD, rowsIn_column (lt_length h.length hc)] at hfirst

/-- What is held over the rows of a grid is held also if rows stand below it. -/
theorem held_append_left {i : Nat} (hi : i < grid.length) (c : Nat) :
    (spans width (grid ++ grid')).held i c = (spans width grid).held i c := by
  have hrow {i : Nat} (hi : i < grid.length) : (grid ++ grid').getD i [] = grid.getD i [] :=
    List.getD_append _ _ _ _ hi
  induction i with
  | zero => exact congrArg (columnsIn · c) (hrow hi)
  | succ i ih =>
    have hrows : (spans width (grid ++ grid')).rows (i + 1) = (spans width grid).rows (i + 1) :=
      congrArg rowsIn (hrow hi)
    have hcolumns :
        (spans width (grid ++ grid')).columns (i + 1) = (spans width grid).columns (i + 1) :=
      congrArg columnsIn (hrow hi)
    rw [Spans.held_succ, Spans.held_succ, ih (Nat.lt_of_succ_lt hi), hrows, hcolumns]

/-- What is held over the rows of a sound grid is held also if rows stand above it. -/
theorem held_append_right (h' : Sound width grid') {i c : Nat} (hi : i < grid'.length)
    (hc : c < width) :
    (spans width (grid ++ grid')).held (grid.length + i) c = (spans width grid').held i c := by
  have hrow (i : Nat) : (grid ++ grid').getD (grid.length + i) [] = grid'.getD i [] := by
    rw [List.getD_append_right _ _ _ _ (Nat.le_add_right _ _), Nat.add_sub_cancel_left]
  have hrows (i : Nat) :
      (spans width (grid ++ grid')).rows (grid.length + i) = (spans width grid').rows i :=
    congrArg rowsIn (hrow i)
  have hcolumns (i : Nat) :
      (spans width (grid ++ grid')).columns (grid.length + i) = (spans width grid').columns i :=
    congrArg columnsIn (hrow i)
  induction i with
  | zero =>
    cases hlength : grid.length with
    | zero =>
      rw [List.length_eq_zero_iff.1 hlength]
      rfl
    | succ n =>
      have hfirst := h'.rows_zero_ne_zero (List.ne_nil_of_length_pos hi) hc
      rw [← hrows 0, hlength] at hfirst
      have hzero := hcolumns 0
      rw [hlength] at hzero
      rw [Nat.add_zero, Spans.held_succ, if_neg hfirst, Spans.held_zero]
      exact congrFun hzero c
  | succ i ih =>
    rw [← Nat.add_assoc, Spans.held_succ, Spans.held_succ, ih (Nat.lt_of_succ_lt hi), ← hrows,
      ← hcolumns]
    rfl

/-- **Sound grids below each other are a sound grid.** -/
theorem append (h : Sound width grid) (h' : Sound width grid') : Sound width (grid ++ grid') where
  length row hrow := (List.mem_append.1 hrow).elim (h.length row) (h'.length row)
  row_balanced row hrow := (List.mem_append.1 hrow).elim (h.row_balanced row) (h'.row_balanced row)
  stacking c hc := by
    rw [column_append, List.map_append]
    exact (h.stacking c hc).append (h'.stacking c hc)
  balanced i hi := by
    by_cases hlt : i < grid.length
    · exact (h.balanced i hlt).congr fun c _ => held_append_left hlt c
    · obtain ⟨j, rfl⟩ := Nat.exists_eq_add_of_le (Nat.le_of_not_lt hlt)
      have hj : j < grid'.length := by
        rw [List.length_append] at hi
        omega
      exact (h'.balanced j hj).congr fun c hc => h'.held_append_right hj hc

theorem flatMap {α : Type} {f : α → Grid} {items : List α}
    (h : ∀ item ∈ items, Sound width (f item)) : Sound width (items.flatMap f) := by
  induction items with
  | nil => exact nil width
  | cons item items ih =>
    rw [List.forall_mem_cons] at h
    exact h.1.append (ih h.2)

/-- Only the spans of the slots matter. -/
theorem map {f : Slot → Slot} (h : Sound width grid) (hrows : ∀ slot, (f slot).rows = slot.rows)
    (hcolumns : ∀ slot, (f slot).columns = slot.columns) :
    Sound width (grid.map (List.map f)) := by
  have hrow (i : Nat) : (grid.map (List.map f)).getD i [] = (grid.getD i []).map f := by
    rw [List.getD_eq_getElem?_getD, List.getD_eq_getElem?_getD, List.getElem?_map]
    cases grid[i]? <;> rfl
  have hmap {n : Slot → Nat} (hn : ∀ slot, n (f slot) = n slot) (slots : List Slot) :
      (slots.map f).map n = slots.map n := by
    rw [List.map_map]
    exact List.map_congr_left fun slot _ => hn slot
  have hspans : spans width (grid.map (List.map f)) = spans width grid := by
    simp only [spans, hrow, List.length_map, Spans.mk.injEq, true_and]
    constructor
    · funext i c
      rw [rowsIn_eq_getD, rowsIn_eq_getD, hmap hrows]
    · funext i c
      rw [columnsIn_eq_getD, columnsIn_eq_getD, hmap hcolumns]
  constructor
  · intro row hmem
    obtain ⟨slots, hslots, rfl⟩ := List.mem_map.1 hmem
    rw [List.length_map]
    exact h.length slots hslots
  · intro row hmem
    obtain ⟨slots, hslots, rfl⟩ := List.mem_map.1 hmem
    refine (h.row_balanced slots hslots).congr fun c _ => ?_
    rw [columnsIn_eq_getD, columnsIn_eq_getD, hmap hcolumns]
  · intro c hc
    rw [column_map, hmap hrows]
    exact h.stacking c hc
  · intro i hi
    rw [List.length_map] at hi
    rw [hspans]
    exact h.balanced i hi

end Sound

/-! ## The rows of a scope before joining -/

/-- **Upright grids.**  The slot of a column that spreads covers all rows from the first one on, and
the slots of every other column cover one row each. -/
structure Upright (width : Nat) (spread : Nat → Bool) (grid : Grid) : Prop where
  length : ∀ row ∈ grid, row.length = width
  rows : ∀ i < grid.length, ∀ c < width, rowsIn (grid.getD i []) c =
    if spread c then (if i = 0 then grid.length else 0) else 1

namespace Upright

variable {width : Nat} {spread : Nat → Bool} {grid : Grid}

/-- The rows of a slot of a column. -/
theorem rows_of_getElem? (h : Upright width spread grid) {i c : Nat} (hc : c < width) {slot : Slot}
    (hslot : (column grid c)[i]? = some slot) :
    slot.rows = if spread c then (if i = 0 then grid.length else 0) else 1 := by
  have hi : i < grid.length := by
    rw [← length_column (lt_length h.length hc)]
    exact (List.getElem?_eq_some_iff.1 hslot).1
  rw [← h.rows i hi c hc, ← rowsIn_column (lt_length h.length hc), rowsIn, hslot]
  rfl

/-- The slots of a column that does not spread. -/
theorem rows_eq_one (h : Upright width spread grid) {c : Nat} (hc : c < width)
    (hspread : spread c = false) : ∀ slot ∈ column grid c, slot.rows = 1 := by
  intro slot hslot
  obtain ⟨i, hi⟩ := List.getElem?_of_mem hslot
  rw [h.rows_of_getElem? hc hi, if_neg (by rw [hspread]; exact Bool.false_ne_true)]

/-- A column that spreads has its slot in the first row. -/
theorem exists_cons (h : Upright width spread grid) {c : Nat} (hc : c < width)
    (hspread : spread c = true) (hne : grid ≠ []) :
    ∃ slot slots, column grid c = slot :: slots ∧ slot.rows = slots.length + 1 ∧
      ∀ below ∈ slots, below.rows = 0 := by
  have hlength := length_column (lt_length h.length hc)
  cases hcolumn : column grid c with
  | nil =>
    rw [hcolumn] at hlength
    exact absurd (List.length_eq_zero_iff.1 hlength.symm) hne
  | cons slot slots =>
    refine ⟨slot, slots, rfl, ?_, fun below hbelow => ?_⟩
    · have hslot : (column grid c)[0]? = some slot := by
        rw [hcolumn]
        rfl
      have hfirst := h.rows_of_getElem? hc hslot
      rw [if_pos hspread, if_pos rfl, ← hlength, hcolumn] at hfirst
      exact hfirst
    · obtain ⟨i, hi⟩ := List.getElem?_of_mem hbelow
      have hslot : (column grid c)[i + 1]? = some below := by
        rw [hcolumn]
        exact hi
      have hthis := h.rows_of_getElem? hc hslot
      rwa [if_pos hspread, if_neg (Nat.succ_ne_zero i)] at hthis

section Joined

variable {flags : List Bool} (h : Upright flags.length spread grid)

include h

/-- A column that spreads is not changed by joining. -/
theorem column_joinGrid_of_spread {c : Nat} (hc : c < flags.length) (hspread : spread c = true)
    (hne : grid ≠ []) : column (joinGrid flags grid) c = column grid c := by
  rw [column_joinGrid h.length hc]
  split
  · obtain ⟨slot, slots, hcolumn, -, hbelow⟩ := h.exists_cons hc hspread hne
    rw [hcolumn, joinColumn_of_rows_eq_zero slot hbelow]
  · rfl

/-- After joining, every column is stacked. -/
theorem stacks_joinGrid (hsize : grid.length < UInt32.size) {c : Nat} (hc : c < flags.length) :
    Stacks ((column (joinGrid flags grid) c).map Slot.rows) := by
  by_cases hne : grid = []
  · have hlength := length_joinGrid h.length
    rw [hne, List.length_nil, List.length_eq_zero_iff] at hlength
    rw [hne, hlength]
    exact .nil
  · cases hspread : spread c with
    | true =>
      obtain ⟨slot, slots, hcolumn, hrows, hbelow⟩ := h.exists_cons hc hspread hne
      have hzero : slots.map Slot.rows = List.replicate slots.length 0 := by
        rw [List.eq_replicate_iff, List.length_map]
        refine ⟨rfl, fun n hn => ?_⟩
        obtain ⟨below, hmem, rfl⟩ := List.mem_map.1 hn
        exact hbelow below hmem
      rw [h.column_joinGrid_of_spread hc hspread hne, hcolumn, List.map_cons, hrows, hzero,
        ← List.append_nil (List.replicate _ _)]
      exact .cons _ .nil
    | false =>
      have hone := h.rows_eq_one hc hspread
      rw [← length_column (lt_length h.length hc)] at hsize
      rw [column_joinGrid h.length hc]
      split
      · exact stacks_joinColumn hone hsize
      · refine stacks_of_eq_one fun n hn => ?_
        obtain ⟨slot, hmem, rfl⟩ := List.mem_map.1 hn
        exact hone slot hmem

end Joined

end Upright

/-! ## Joining the grid of a scope -/

/-- **The shape of a grid before joining.**  It is upright, and each of its rows is separated where
the columns change from such that spread to such that do not. -/
structure Shape (width : Nat) (spread : Nat → Bool) (grid : Grid) : Prop extends
    Upright width spread grid where
  separated : ∀ i < grid.length, Separated width spread (columnsIn (grid.getD i []))

namespace Shape

variable {width : Nat} {spread : Nat → Bool} {grid : Grid}

section Joined

variable {flags : List Bool} (h : Shape flags.length spread grid)

include h

/-- Joining changes no columns of a grid. -/
theorem columnsIn_joinGrid {c : Nat} (hc : c < flags.length) (i : Nat) :
    columnsIn ((joinGrid flags grid).getD i []) c = columnsIn (grid.getD i []) c := by
  have hjoined := lt_length (length_of_mem_joinGrid h.length) hc
  have hcolumns : (column (joinGrid flags grid) c).map Slot.columns =
      (column grid c).map Slot.columns := by
    rw [column_joinGrid h.length hc]
    split
    · exact map_columns_joinColumn _
    · rfl
  rw [← columnsIn_column hjoined, ← columnsIn_column (lt_length h.length hc), columnsIn_eq_getD,
    columnsIn_eq_getD, hcolumns]

variable (hsize : grid.length < UInt32.size)

include hsize

/-- After joining, what is held over the next row in a column that does not spread has the columns
it has had. -/
theorem columnsIn_succ_of_rowsIn_eq_zero {i c : Nat} (hi : i + 1 < grid.length)
    (hc : c < flags.length) (hspread : spread c = false)
    (hrows : rowsIn ((joinGrid flags grid).getD (i + 1) []) c = 0) :
    columnsIn (grid.getD (i + 1) []) c = columnsIn (grid.getD i []) c := by
  have hjoined := lt_length (length_of_mem_joinGrid h.length) hc
  have hone := h.toUpright.rows_eq_one hc hspread
  have hcolumn : (column grid c).length < UInt32.size := by
    rwa [length_column (lt_length h.length hc)]
  have hchain : List.IsChain Continues (column (joinGrid flags grid) c) := by
    rw [column_joinGrid h.length hc]
    split
    · exact chain_joinColumn hone hcolumn
    · exact chain_of_rows_eq_one hone
  have hlength : (column (joinGrid flags grid) c).length = grid.length := by
    rw [length_column hjoined, length_joinGrid h.length]
  have hnext := List.getElem?_eq_getElem (l := column (joinGrid flags grid) c)
    (i := i + 1) (by omega)
  have hthis := List.getElem?_eq_getElem (l := column (joinGrid flags grid) c) (i := i) (by omega)
  have hcontinues := hchain.getElem i (by omega)
  rw [← rowsIn_column hjoined, rowsIn, hnext] at hrows
  rw [← h.columnsIn_joinGrid hc, ← h.columnsIn_joinGrid hc, ← columnsIn_column hjoined,
    ← columnsIn_column hjoined, columnsIn, columnsIn, hnext, hthis]
  exact hcontinues hrows

/-- **What is held over a row after joining**: in a column that spreads what is held over the first
row, and in every other column what stands in the row. -/
theorem held_joinGrid {i c : Nat} (hi : i < grid.length) (hc : c < flags.length) :
    (spans flags.length (joinGrid flags grid)).held i c =
      if spread c then columnsIn (grid.getD 0 []) c else columnsIn (grid.getD i []) c := by
  have hne : grid ≠ [] := List.ne_nil_of_length_pos (by omega)
  have hjoined := lt_length (length_of_mem_joinGrid h.length) hc
  induction i with
  | zero =>
    rw [ite_self, Spans.held_zero]
    exact h.columnsIn_joinGrid hc 0
  | succ i ih =>
    have hrows : (spans flags.length (joinGrid flags grid)).rows (i + 1) c =
        rowsIn ((joinGrid flags grid).getD (i + 1) []) c := rfl
    have hcolumns : (spans flags.length (joinGrid flags grid)).columns (i + 1) c =
        columnsIn (grid.getD (i + 1) []) c := h.columnsIn_joinGrid hc (i + 1)
    rw [Spans.held_succ, ih (Nat.lt_of_succ_lt hi), hrows, hcolumns]
    cases hspread : spread c with
    | true =>
      have hzero : rowsIn ((joinGrid flags grid).getD (i + 1) []) c = 0 := by
        rw [← rowsIn_column hjoined, h.toUpright.column_joinGrid_of_spread hc hspread hne,
          rowsIn_column (lt_length h.length hc), h.rows (i + 1) hi c hc, if_pos hspread,
          if_neg (Nat.succ_ne_zero i)]
      rw [if_pos hzero]
      rfl
    | false =>
      simp only [Bool.false_eq_true, if_false]
      split
      · next hzero => exact (h.columnsIn_succ_of_rowsIn_eq_zero hsize hi hc hspread hzero).symm
      · rfl

/-- **The grid of a scope is sound after joining.** -/
theorem sound_joinGrid : Sound flags.length (joinGrid flags grid) where
  length := length_of_mem_joinGrid h.length
  row_balanced row hrow := by
    obtain ⟨i, hi, hget⟩ := List.getElem_of_mem hrow
    have hrow : (joinGrid flags grid).getD i [] = row := by
      rw [List.getD_eq_getElem _ _ hi, hget]
    rw [length_joinGrid h.length] at hi
    refine (h.separated i hi).congr fun c hc => ?_
    rw [← hrow, h.columnsIn_joinGrid hc]
  stacking _ hc := h.toUpright.stacks_joinGrid hsize hc
  balanced i hi := by
    rw [length_joinGrid h.length] at hi
    have hmix := (h.separated 0 (Nat.zero_lt_of_lt hi)).mix (h.separated i hi)
    exact hmix.congr fun c hc => h.held_joinGrid hsize hi hc

end Joined

end Shape

end Table

end Bindery
