import Bindery.Proofs.Table.ColumnMerge
import Bindery.Table.RowJoin
import Mathlib.Data.List.Chain
import Mathlib.Data.List.GetD
import Mathlib.Data.List.SplitBy
import Mathlib.Logic.Function.Iterate

/-!
# Columns with joined slots

Down a column, a slot that covers several rows is followed by as many slots less one that cover
none.  A column that consists of such stacks one after the other (`Stacks`) covers every row exactly
once (`Stacks.stacked`).

Joining a column of slots over one row each is joining each of its runs, the longest stretches in
which every slot agrees with the one above it (`joinColumn_eq_flatMap`).  The loop looks for the
slot that covers the one above, and finds the first slot of the run: below it are only slots that
have joined, and it has not been covered itself.  The latter needs that a word can count the rows of
the run, since the addition of words could give zero otherwise.

So the result consists of stacks (`stacks_joinColumn`), and a slot is joined to the one above it
only if both have the same columns (`chain_joinColumn`).  A column in which all slots but the first
are covered from above is left as it is.

A grid is joined column by column.  `column` takes a column out of a grid, and `column_joinGrid`
says that joining a grid is joining each of its columns.
-/

namespace Bindery

namespace Table

/-! ## Stacks -/

/-- **Stacks.**  How many rows the slots of a column cover: some, then none in the rows that are
covered by it, and so on. -/
inductive Stacks : List Nat → Prop
  | nil : Stacks []
  | cons (below : Nat) {rest : List Nat} (h : Stacks rest) :
      Stacks ((below + 1) :: (List.replicate below 0 ++ rest))

theorem Stacks.append {rows rows' : List Nat} (h : Stacks rows) (h' : Stacks rows') :
    Stacks (rows ++ rows') := by
  induction h with
  | nil => exact h'
  | cons below h ih =>
    rw [List.cons_append, List.append_assoc]
    exact .cons below ih

theorem Stacks.flatMap {α : Type} {f : α → List Nat} {items : List α}
    (h : ∀ item ∈ items, Stacks (f item)) : Stacks (items.flatMap f) := by
  induction items with
  | nil => exact .nil
  | cons item items ih =>
    rw [List.forall_mem_cons] at h
    exact h.1.append (ih h.2)

/-- Slots over one row each are stacks. -/
theorem stacks_of_eq_one {rows : List Nat} (h : ∀ n ∈ rows, n = 1) : Stacks rows := by
  induction rows with
  | nil => exact .nil
  | cons n rows ih =>
    rw [List.forall_mem_cons] at h
    rw [h.1]
    exact .cons 0 (ih h.2)

/-- The first slot of a column is not covered from above. -/
theorem Stacks.getD_zero {rows : List Nat} (h : Stacks rows) (hne : rows ≠ []) :
    rows.getD 0 0 ≠ 0 := by
  cases h with
  | nil => exact absurd rfl hne
  | cons below h => exact Nat.succ_ne_zero below

/-- What stands where in a stack and below it. -/
theorem getD_stack (below r : Nat) (rest : List Nat) :
    ((below + 1) :: (List.replicate below 0 ++ rest)).getD r 0 =
      if r = 0 then below + 1 else if r ≤ below then 0 else rest.getD (r - (below + 1)) 0 := by
  cases r with
  | zero => rfl
  | succ r =>
    rw [List.getD_cons_succ, if_neg (Nat.succ_ne_zero r)]
    split
    · rw [List.getD_append _ _ _ _ (by rw [List.length_replicate]; omega),
        List.getD_replicate 0 (by omega)]
    · rw [List.getD_append_right _ _ _ _ (by rw [List.length_replicate]; omega),
        List.length_replicate, Nat.add_sub_add_right]

/-- **Stacks cover every row exactly once.** -/
theorem Stacks.stacked {rows : List Nat} (h : Stacks rows) :
    Spans.Stacked rows.length fun r => rows.getD r 0 := by
  induction h with
  | nil =>
    exact ⟨fun r hr => absurd hr (Nat.not_lt_zero r), fun i hi => absurd hi (Nat.not_lt_zero i)⟩
  | @cons below rest h ih =>
    have hlength : ((below + 1) :: (List.replicate below 0 ++ rest)).length =
        below + 1 + rest.length := by
      simp only [List.length_cons, List.length_append, List.length_replicate]
      omega
    rw [hlength]
    simp only [getD_stack]
    constructor
    · intro r hr
      split
      · omega
      · split
        · omega
        · have := ih.inside (r - (below + 1)) (by omega)
          omega
    · intro i hi
      by_cases hfirst : i ≤ below
      · -- the first stack covers the row, and below it is nothing of its own rows
        refine ⟨0, ⟨Nat.zero_le i, by rw [if_pos rfl]; omega⟩, fun r hr => ?_⟩
        dsimp only at hr
        split at hr
        · assumption
        · rw [if_pos (by omega)] at hr
          omega
      · obtain ⟨r, ⟨htop, hbottom⟩, hunique⟩ := ih.covered (i - (below + 1)) (by omega)
        refine ⟨below + 1 + r, ⟨by omega, ?_⟩, fun r' hr' => ?_⟩
        · have hplace : below + 1 + r - (below + 1) = r := by omega
          rw [if_neg (by omega), if_neg (by omega), hplace]
          omega
        · dsimp only at hr'
          split at hr'
          · omega
          · split at hr'
            · omega
            · have := hunique (r' - (below + 1)) ⟨by omega, by omega⟩
              omega

/-! ## Joining -/

/-- Two slots below each other, the lower of which has the same columns if it is covered from
above. -/
def Continues (above slot : Slot) : Prop :=
  slot.rows = 0 → slot.columns = above.columns

section Keeps

variable {α : Type} {f : Slot → α} (hlengthen : ∀ slot, f slot.lengthen = f slot)
  (hunder : ∀ slot, f slot.underAbove = f slot)

include hlengthen

theorem map_lengthenNearest (slots : List Slot) : (lengthenNearest slots).map f = slots.map f := by
  fun_induction lengthenNearest slots with
  | case1 => rfl
  | case2 slot slots _ ih => rw [List.map_cons, ih, List.map_cons]
  | case3 slot slots => rw [List.map_cons, hlengthen, List.map_cons]

include hunder

theorem map_joinFrom (done slots : List Slot) :
    (joinFrom done slots).map f = (done.map f).reverse ++ slots.map f := by
  fun_induction joinFrom done slots with
  | case1 done => rw [List.map_reverse, List.map_nil, List.append_nil]
  | case2 done slot slots _ ih =>
    rw [ih, List.map_cons, List.map_cons, hunder, map_lengthenNearest hlengthen,
      List.reverse_cons, ← List.append_cons]
  | case3 done slot slots _ ih =>
    rw [ih, List.map_cons, List.map_cons, List.reverse_cons, ← List.append_cons]

/-- What does not depend on the rows of a slot is not changed by joining. -/
theorem map_joinColumn (slots : List Slot) : (joinColumn slots).map f = slots.map f :=
  map_joinFrom hlengthen hunder [] slots

end Keeps

@[simp] theorem map_columns_joinColumn (slots : List Slot) :
    (joinColumn slots).map Slot.columns = slots.map Slot.columns :=
  map_joinColumn (fun _ => rfl) (fun _ => rfl) slots

/-- Slots over one row each are a chain, whatever their columns. -/
theorem chain_of_rows_eq_one {slots : List Slot} (h : ∀ slot ∈ slots, slot.rows = 1) :
    List.IsChain Continues slots := by
  rw [List.isChain_iff_getElem]
  intro i hi hzero
  rw [h _ (List.getElem_mem hi)] at hzero
  exact absurd hzero Nat.one_ne_zero

theorem joinFrom_of_rows_eq_zero (done : List Slot) {slots : List Slot}
    (h : ∀ slot ∈ slots, slot.rows = 0) : joinFrom done slots = done.reverse ++ slots := by
  induction slots generalizing done with
  | nil => rw [joinFrom, List.append_nil]
  | cons slot slots ih =>
    rw [List.forall_mem_cons] at h
    have hjoins (above : Slot) : joins above slot = false := by
      simp [joins, Slot.isBelow, h.1]
    have hany : done.head?.any (joins · slot) = false := by
      cases done with
      | nil => rfl
      | cons above done => exact hjoins above
    rw [joinFrom, hany, if_neg Bool.false_ne_true, ih _ h.2, List.reverse_cons,
      ← List.append_cons]

/-- A column that is covered by its first slot is not changed by joining. -/
theorem joinColumn_of_rows_eq_zero (slot : Slot) {slots : List Slot}
    (h : ∀ slot ∈ slots, slot.rows = 0) : joinColumn (slot :: slots) = slot :: slots :=
  joinFrom_of_rows_eq_zero [slot] h

/-! ## Runs -/

/-- Whether a slot holds the same element as the one above it and covers as many columns. -/
def Slot.agrees (above slot : Slot) : Bool :=
  slot.columns == above.columns && slot.sameElement above

/-- A slot that is not covered joins the one above it exactly if the two agree. -/
theorem joins_eq_agrees (above : Slot) {slot : Slot} (h : slot.rows = 1) :
    joins above slot = above.agrees slot := by
  have hbelow : slot.isBelow = false := by
    rw [Slot.isBelow, h]
    rfl
  rw [joins, Slot.agrees, hbelow]
  rfl

/-- A run of slots as one: the first slot has come to cover one row for each slot below it, and
these are covered from above. -/
def joinedRun : List Slot → List Slot
  | [] => []
  | first :: below => Slot.lengthen^[below.length] first :: below.map Slot.underAbove

/-- A slot over several more rows, as long as a word can count its rows. -/
theorem rows_iterate_lengthen {slot : Slot} {n : Nat} (h : slot.rows + n < UInt32.size) :
    (Slot.lengthen^[n] slot).rows = slot.rows + n := by
  induction n generalizing slot with
  | zero => rfl
  | succ n ih =>
    have hone : slot.lengthen.rows = slot.rows + 1 := Slot.rows_lengthen (by omega)
    rw [Function.iterate_succ_apply, ih (by omega), hone]
    omega

/-- The row that a slot gives up goes to the slot that covers the one above it. -/
theorem lengthenNearest_append {under : List Slot} (hunder : ∀ slot ∈ under, slot.isBelow = true)
    {owner : Slot} (howner : owner.isBelow = false) (done : List Slot) :
    lengthenNearest (under ++ owner :: done) = under ++ owner.lengthen :: done := by
  induction under with
  | nil => simp [lengthenNearest, howner]
  | cons slot under ih =>
    rw [List.forall_mem_cons] at hunder
    simp [lengthenNearest, hunder.1, ih hunder.2]

/-- **The slots of a run join the one above them**, and the slot that covers that one comes to cover
their rows.  It is not covered itself, and stays so as long as a word can count its rows. -/
theorem joinFrom_append {below : List Slot} {owner : Slot} (under done rest : List Slot)
    (hunder : ∀ slot ∈ under, slot.isBelow = true) (howner : owner.rows ≠ 0)
    (hsize : owner.rows + below.length < UInt32.size) (hbelow : ∀ slot ∈ below, slot.rows = 1)
    (hchain : List.IsChain (fun above slot => above.agrees slot = true) below)
    (hfirst : ∀ slot ∈ below.head?, ∃ above ∈ (under ++ owner :: done).head?,
      above.agrees slot = true) :
    joinFrom (under ++ owner :: done) (below ++ rest) =
      joinFrom ((below.map Slot.underAbove).reverse ++
        (under ++ Slot.lengthen^[below.length] owner :: done)) rest := by
  induction below generalizing under owner with
  | nil => rfl
  | cons slot below ih =>
    rw [List.forall_mem_cons] at hbelow
    rw [List.length_cons] at hsize
    obtain ⟨above, habove, hagrees⟩ := hfirst slot rfl
    have hjoins : (under ++ owner :: done).head?.any (joins · slot) = true := by
      rw [Option.mem_def.1 habove, Option.any_some, joins_eq_agrees above hbelow.1, hagrees]
    have hopen : owner.isBelow = false := beq_false_of_ne howner
    have hlengthen : owner.lengthen.rows = owner.rows + 1 := Slot.rows_lengthen (by omega)
    have hnext : ∀ next ∈ below.head?, ∃ above ∈ (slot.underAbove :: under ++
        owner.lengthen :: done).head?, above.agrees next = true := fun next hnext =>
      ⟨slot.underAbove, rfl, List.IsChain.rel_head? hchain hnext⟩
    rw [List.cons_append, joinFrom, hjoins, if_pos rfl, lengthenNearest_append hunder hopen,
      ← List.cons_append, ih _ (List.forall_mem_cons.2 ⟨rfl, hunder⟩) (by omega) (by omega) hbelow.2
        hchain.tail hnext, List.map_cons, List.reverse_cons, List.length_cons,
      Function.iterate_succ_apply, List.append_assoc]
    rfl

theorem map_joinedRun {α : Type} {f : Slot → α} (hlengthen : ∀ slot, f slot.lengthen = f slot)
    (hunder : ∀ slot, f slot.underAbove = f slot) (run : List Slot) :
    (joinedRun run).map f = run.map f := by
  have hiterate (n : Nat) (slot : Slot) : f (Slot.lengthen^[n] slot) = f slot := by
    induction n generalizing slot with
    | zero => rfl
    | succ n ih => rw [Function.iterate_succ_apply, ih, hlengthen]
  cases run with
  | nil => rfl
  | cons first below =>
    rw [joinedRun, List.map_cons, hiterate, List.map_map, List.map_cons]
    exact congrArg _ (List.map_congr_left fun slot _ => hunder slot)

/-- A run is joined as a whole if its first slot does not join what stands above it. -/
theorem joinFrom_run_append {run : List Slot} (done rest : List Slot)
    (hrows : ∀ slot ∈ run, slot.rows = 1) (hsize : run.length < UInt32.size)
    (hchain : List.IsChain (fun above slot => above.agrees slot = true) run)
    (hfirst : ∀ slot ∈ run.head?, ∀ above ∈ done.head?, above.agrees slot = false) :
    joinFrom done (run ++ rest) = joinFrom ((joinedRun run).reverse ++ done) rest := by
  cases run with
  | nil => rfl
  | cons first below =>
    obtain ⟨hone, hbelow⟩ := List.forall_mem_cons.1 hrows
    have hstays : done.head?.any (joins · first) = false := by
      cases hdone : done.head? with
      | none => rfl
      | some above =>
        rw [Option.any_some, joins_eq_agrees above hone]
        exact hfirst first rfl above hdone
    have hlength : first.rows + below.length < UInt32.size := by
      rw [hone, Nat.add_comm]
      exact hsize
    have hbelow := joinFrom_append [] done rest (by simp)
      (ne_of_eq_of_ne hone Nat.one_ne_zero) hlength hbelow hchain.tail
      fun slot hslot => ⟨first, rfl, List.IsChain.rel_head? hchain hslot⟩
    rw [List.nil_append, List.nil_append] at hbelow
    rw [List.cons_append, joinFrom, hstays, if_neg Bool.false_ne_true, hbelow, joinedRun,
      List.reverse_cons, ← List.append_cons]

/-- What agrees with the last slot of a run agrees with it after joining. -/
theorem agrees_of_mem_head? {run done : List Slot} (hne : run ≠ []) {above : Slot}
    (habove : above ∈ ((joinedRun run).reverse ++ done).head?) (slot : Slot) :
    above.agrees slot = (run.getLast hne).agrees slot := by
  have hsame := map_joinedRun (f := (·.agrees slot)) (fun _ => rfl) (fun _ => rfl) run
  have hlast := congrArg List.getLast? hsame
  rw [List.getLast?_map, List.getLast?_map, List.getLast?_eq_some_getLast hne,
    Option.map_some] at hlast
  obtain ⟨last, hjoined, hagrees⟩ := Option.map_eq_some_iff.1 hlast
  rw [List.head?_append, List.head?_reverse, hjoined, Option.some_or,
    Option.mem_some_iff] at habove
  rw [← habove, hagrees]

/-- **Joining goes run by run** if a column is cut into runs that cannot be longer. -/
theorem joinFrom_flatten (done : List Slot) {runs : List (List Slot)} (hne : [] ∉ runs)
    (hchains : ∀ run ∈ runs, List.IsChain (fun above slot => above.agrees slot = true) run)
    (hmaximal : runs.IsChain fun run next => ∃ hrun hnext,
      (run.getLast hrun).agrees (next.head hnext) = false)
    (hrows : ∀ run ∈ runs, ∀ slot ∈ run, slot.rows = 1)
    (hsize : ∀ run ∈ runs, run.length < UInt32.size)
    (hfirst : ∀ slot ∈ runs.flatten.head?, ∀ above ∈ done.head?, above.agrees slot = false) :
    joinFrom done runs.flatten = done.reverse ++ runs.flatMap joinedRun := by
  induction runs generalizing done with
  | nil => rw [List.flatten_nil, joinFrom, List.flatMap_nil, List.append_nil]
  | cons run runs ih =>
    rw [List.mem_cons, not_or] at hne
    rw [List.forall_mem_cons] at hchains hrows hsize
    rw [List.flatten_cons, List.head?_append_of_ne_nil _ (Ne.symm hne.1)] at hfirst
    rw [List.flatten_cons, joinFrom_run_append done _ hrows.1 hsize.1 hchains.1 hfirst,
      ih _ hne.2 hchains.2 hmaximal.tail hrows.2 hsize.2, List.reverse_append,
      List.reverse_reverse, List.flatMap_cons, List.append_assoc]
    intro slot hslot above habove
    cases runs with
    | nil => exact absurd hslot (by simp)
    | cons next runs =>
      -- the slot after the run is the first one of the next run
      obtain ⟨hlast, hhead, hagrees⟩ := (List.isChain_cons_cons.1 hmaximal).1
      rw [List.flatten_cons, List.head?_append_of_ne_nil _ hhead, List.head?_eq_some_head hhead]
        at hslot
      rw [agrees_of_mem_head? hlast habove, ← Option.some.inj hslot, hagrees]

theorem rows_and_length_of_mem_splitBy {slots run : List Slot}
    (hrows : ∀ slot ∈ slots, slot.rows = 1) (hsize : slots.length < UInt32.size)
    (hrun : run ∈ slots.splitBy Slot.agrees) :
    (∀ slot ∈ run, slot.rows = 1) ∧ run.length < UInt32.size := by
  have hpart := List.infix_of_mem_flatten hrun
  rw [List.flatten_splitBy] at hpart
  exact ⟨fun slot hslot => hrows slot (hpart.mem hslot), Nat.lt_of_le_of_lt hpart.length_le hsize⟩

/-- **A column after joining**: its runs of agreeing slots, each as one, if all slots are over one
row and a word can count them. -/
theorem joinColumn_eq_flatMap {slots : List Slot} (hrows : ∀ slot ∈ slots, slot.rows = 1)
    (hsize : slots.length < UInt32.size) :
    joinColumn slots = (slots.splitBy Slot.agrees).flatMap joinedRun := by
  have hruns (run : List Slot) (hrun : run ∈ slots.splitBy Slot.agrees) :=
    rows_and_length_of_mem_splitBy hrows hsize hrun
  have hjoined := joinFrom_flatten [] (List.nil_notMem_splitBy Slot.agrees slots)
    (fun _ => List.isChain_of_mem_splitBy) (List.isChain_getLast_head_splitBy Slot.agrees slots)
    (fun run hrun => (hruns run hrun).1) (fun run hrun => (hruns run hrun).2)
    fun _ _ _ habove => absurd habove (by simp)
  rwa [List.flatten_splitBy] at hjoined

section JoinedRun

variable {run : List Slot} (hrows : ∀ slot ∈ run, slot.rows = 1) (hsize : run.length < UInt32.size)

include hrows hsize

/-- The first slot of a run covers its rows. -/
theorem rows_eq_of_mem_head? : ∀ slot ∈ (joinedRun run).head?, slot.rows = run.length := by
  cases run with
  | nil => simp [joinedRun]
  | cons first below =>
    have hone := (List.forall_mem_cons.1 hrows).1
    rw [List.length_cons, Nat.add_comm, ← hone] at hsize
    intro slot hslot
    rw [← Option.some.inj hslot, rows_iterate_lengthen hsize, hone, List.length_cons, Nat.add_comm]

theorem stacks_joinedRun : Stacks ((joinedRun run).map Slot.rows) := by
  have hfirst := rows_eq_of_mem_head? hrows hsize
  cases run with
  | nil => exact .nil
  | cons first below =>
    have hunder : (below.map Slot.underAbove).map Slot.rows =
        List.replicate below.length 0 ++ [] := by
      rw [List.map_map, List.append_nil]
      exact List.map_const' ..
    rw [joinedRun, List.map_cons, hfirst _ rfl, hunder]
    exact .cons _ .nil

end JoinedRun

/-- The slots of a run have the same columns. -/
theorem chain_joinedRun {run : List Slot}
    (h : List.IsChain (fun above slot => above.agrees slot = true) run) :
    List.IsChain Continues (joinedRun run) := by
  have hcolumns : List.IsChain (fun above columns => columns = above) (run.map Slot.columns) := by
    rw [List.isChain_map]
    refine h.imp fun above slot hagrees => ?_
    rw [Slot.agrees, Bool.and_eq_true, beq_iff_eq] at hagrees
    exact hagrees.1
  rw [← map_joinedRun (fun _ => rfl) (fun _ => rfl), List.isChain_map] at hcolumns
  exact hcolumns.imp fun _ _ hsame _ => hsame

section JoinColumn

variable {slots : List Slot} (hrows : ∀ slot ∈ slots, slot.rows = 1)
  (hsize : slots.length < UInt32.size)

include hrows hsize

/-- **Joining makes stacks** of slots over one row each. -/
theorem stacks_joinColumn : Stacks ((joinColumn slots).map Slot.rows) := by
  rw [joinColumn_eq_flatMap hrows hsize, List.map_flatMap]
  refine Stacks.flatMap fun run hrun => ?_
  obtain ⟨hone, hlength⟩ := rows_and_length_of_mem_splitBy hrows hsize hrun
  exact stacks_joinedRun hone hlength

omit hrows hsize in
/-- Chains below each other are a chain if no slot at the top of one is covered from above. -/
theorem chain_flatMap_joinedRun {runs : List (List Slot)}
    (h : ∀ run ∈ runs, List.IsChain Continues (joinedRun run) ∧
      ∀ slot ∈ (joinedRun run).head?, slot.rows ≠ 0) :
    List.IsChain Continues (runs.flatMap joinedRun) ∧
      ∀ slot ∈ (runs.flatMap joinedRun).head?, slot.rows ≠ 0 := by
  induction runs with
  | nil => exact ⟨.nil, by simp⟩
  | cons run runs ih =>
    rw [List.forall_mem_cons] at h
    obtain ⟨hchain, hfirst⟩ := ih h.2
    rw [List.flatMap_cons, List.isChain_append, List.head?_append]
    refine ⟨⟨h.1.1, hchain, fun _ _ slot hslot hzero => absurd hzero (hfirst slot hslot)⟩, ?_⟩
    intro slot hslot
    exact (Option.or_eq_some_iff.1 hslot).elim (h.1.2 slot) fun hrest => hfirst slot hrest.2

/-- **Joined slots have the same columns.** -/
theorem chain_joinColumn : List.IsChain Continues (joinColumn slots) := by
  rw [joinColumn_eq_flatMap hrows hsize]
  refine (chain_flatMap_joinedRun fun run hrun => ?_).1
  obtain ⟨hone, hlength⟩ := rows_and_length_of_mem_splitBy hrows hsize hrun
  refine ⟨chain_joinedRun (List.isChain_of_mem_splitBy hrun), fun slot hslot => ?_⟩
  rw [rows_eq_of_mem_head? hone hlength slot hslot]
  exact fun hzero => List.nil_notMem_splitBy _ _ (List.length_eq_zero_iff.1 hzero ▸ hrun)

end JoinColumn

/-! ## Grids -/

section Transposing

variable {α : Type}

/-- A column of a list of rows. -/
def column (rows : List (List α)) (c : Nat) : List α :=
  rows.filterMap fun row => row[c]?

theorem column_cons_of_lt {row : List α} {c : Nat} (h : c < row.length) (rows : List (List α)) :
    column (row :: rows) c = row[c] :: column rows c := by
  rw [column, List.filterMap_cons, List.getElem?_eq_getElem h]
  rfl

theorem column_append (rows rows' : List (List α)) (c : Nat) :
    column (rows ++ rows') c = column rows c ++ column rows' c :=
  List.filterMap_append

theorem column_flatMap {β : Type} (f : β → List (List α)) (items : List β) (c : Nat) :
    column (items.flatMap f) c = items.flatMap fun item => column (f item) c :=
  List.filterMap_flatMap

theorem column_map {β : Type} (f : α → β) (rows : List (List α)) (c : Nat) :
    column (rows.map (·.map f)) c = (column rows c).map f := by
  rw [column, column, List.filterMap_map, List.map_filterMap]
  exact List.filterMap_congr fun row _ => List.getElem?_map

/-- What stands in a row of a column. -/
theorem getElem?_column {rows : List (List α)} {c : Nat} (h : ∀ row ∈ rows, c < row.length)
    (i : Nat) : (column rows c)[i]? = rows[i]?.bind fun row => row[c]? := by
  induction rows generalizing i with
  | nil => rfl
  | cons row rows ih =>
    rw [List.forall_mem_cons] at h
    rw [column_cons_of_lt h.1]
    cases i with
    | zero => exact (List.getElem?_eq_getElem h.1).symm
    | succ i => exact ih h.2 i

theorem length_column {rows : List (List α)} {c : Nat} (h : ∀ row ∈ rows, c < row.length) :
    (column rows c).length = rows.length := by
  induction rows with
  | nil => rfl
  | cons row rows ih =>
    rw [List.forall_mem_cons] at h
    rw [column_cons_of_lt h.1, List.length_cons, List.length_cons, ih h.2]

/-- The columns of a list of rows. -/
theorem getElem?_transpose {width c : Nat} {rows : List (List α)}
    (h : ∀ row ∈ rows, row.length = width) (hc : c < width) :
    (transpose width rows)[c]? = some (column rows c) := by
  induction rows with
  | nil =>
    rw [transpose_nil, List.getElem?_replicate, if_pos hc]
    rfl
  | cons row rows ih =>
    rw [List.forall_mem_cons] at h
    rw [transpose_cons, List.getElem?_zipWith, ih h.2, List.getElem?_eq_getElem (h.1 ▸ hc),
      column_cons_of_lt (h.1 ▸ hc)]

/-- The first column of rows that were made one longer. -/
theorem column_zipWith_cons_zero {items : List α} {rows : List (List α)}
    (h : items.length = rows.length) : column (List.zipWith List.cons items rows) 0 = items := by
  induction items generalizing rows with
  | nil => rfl
  | cons item items ih =>
    cases rows with
    | nil => exact absurd h (Nat.succ_ne_zero _)
    | cons row rows =>
      rw [List.zipWith_cons_cons, column_cons_of_lt (Nat.zero_lt_succ _),
        ih (Nat.succ.inj h)]
      rfl

/-- The other columns of rows that were made one longer. -/
theorem column_zipWith_cons_succ {items : List α} {rows : List (List α)}
    (h : items.length = rows.length) (c : Nat) :
    column (List.zipWith List.cons items rows) (c + 1) = column rows c := by
  induction items generalizing rows with
  | nil =>
    cases rows with
    | nil => rfl
    | cons row rows => exact absurd h.symm (Nat.succ_ne_zero _)
  | cons item items ih =>
    cases rows with
    | nil => exact absurd h (Nat.succ_ne_zero _)
    | cons row rows =>
      have hrest := ih (Nat.succ.inj h)
      unfold column at hrest ⊢
      rw [List.zipWith_cons_cons, List.filterMap_cons, List.filterMap_cons, List.getElem?_cons_succ,
        hrest]

/-- **Transposing back gives the columns.** -/
theorem column_transpose {height c : Nat} {columns : List (List α)} {items : List α}
    (h : ∀ items ∈ columns, items.length = height) (hc : columns[c]? = some items) :
    column (transpose height columns) c = items := by
  induction columns generalizing c with
  | nil => exact absurd hc (by simp)
  | cons first columns ih =>
    rw [List.forall_mem_cons] at h
    have hlength : first.length = (transpose height columns).length := by
      rw [h.1, length_transpose h.2]
    rw [transpose_cons]
    cases c with
    | zero =>
      obtain rfl := Option.some.inj hc
      exact column_zipWith_cons_zero hlength
    | succ c =>
      rw [column_zipWith_cons_succ hlength]
      exact ih h.2 hc

/-- Each row of the columns has as many places as there are columns. -/
theorem length_of_mem_transpose {height : Nat} {columns : List (List α)}
    (h : ∀ items ∈ columns, items.length = height) :
    ∀ row ∈ transpose height columns, row.length = columns.length := by
  induction columns with
  | nil =>
    intro row hrow
    rw [List.eq_of_mem_replicate hrow]
    rfl
  | cons first columns ih =>
    rw [List.forall_mem_cons] at h
    intro row hrow
    rw [transpose_cons, ← List.map_uncurry_zip_eq_zipWith] at hrow
    obtain ⟨⟨item, rest⟩, hmem, rfl⟩ := List.mem_map.1 hrow
    exact congrArg Nat.succ (ih h.2 rest (List.of_mem_zip hmem).2)

end Transposing

section Joining

variable {flags : List Bool} {grid : Grid}

/-- The columns of a grid after joining. -/
theorem getElem?_joined {c : Nat} (h : ∀ row ∈ grid, row.length = flags.length)
    (hc : c < flags.length) :
    (List.zipWith (fun flag slots => if flag then joinColumn slots else slots) flags
        (transpose flags.length grid))[c]? =
      some (if flags[c] then joinColumn (column grid c) else column grid c) := by
  rw [List.getElem?_zipWith, List.getElem?_eq_getElem hc, getElem?_transpose h hc]

theorem length_of_mem_joined (h : ∀ row ∈ grid, row.length = flags.length) :
    ∀ slots ∈ List.zipWith (fun flag slots => if flag then joinColumn slots else slots) flags
      (transpose flags.length grid), slots.length = grid.length := by
  intro slots hslots
  obtain ⟨c, hc, rfl⟩ := List.getElem_of_mem hslots
  have hlt : c < flags.length := by
    rw [List.length_zipWith] at hc
    omega
  have hcolumn := getElem?_joined h hlt
  rw [List.getElem?_eq_getElem hc] at hcolumn
  rw [Option.some.inj hcolumn]
  have hlength : (column grid c).length = grid.length :=
    length_column fun row hrow => (h row hrow).symm ▸ hlt
  split
  · rw [length_joinColumn, hlength]
  · exact hlength

theorem length_joinGrid (h : ∀ row ∈ grid, row.length = flags.length) :
    (joinGrid flags grid).length = grid.length :=
  length_transpose (length_of_mem_joined h)

theorem length_of_mem_joinGrid (h : ∀ row ∈ grid, row.length = flags.length) :
    ∀ row ∈ joinGrid flags grid, row.length = flags.length := by
  intro row hrow
  rw [length_of_mem_transpose (length_of_mem_joined h) row hrow, List.length_zipWith,
    length_transpose h, Nat.min_self]

/-- **A grid is joined column by column.** -/
theorem column_joinGrid {c : Nat} (h : ∀ row ∈ grid, row.length = flags.length)
    (hc : c < flags.length) :
    column (joinGrid flags grid) c =
      if flags[c] then joinColumn (column grid c) else column grid c :=
  column_transpose (length_of_mem_joined h) (getElem?_joined h hc)

end Joining

end Table

end Bindery
