import Bindery.Markup.Run
import Mathlib.Algebra.GroupWithZero.Nat

/-!
# Reading with a stack is recursion

What is still to be read stands on a stack, and a text that comes up is replaced by the parts of its
level, which are read before anything below.  Said without a stack, a text has the runs of these
parts one after the other, where a part that is a text is read in the same way (`nestedRuns`).

The two agree (`Markup.runsIn_reached`).  The stack may be cut anywhere: what it gives is what its
entries give on their own, from the top down, behind the runs so far (`Progress.finish_eq`).  One
round does not change this, since the parts of a text give together what the text gives.

That the stack is empty in the end is the measure on rounds again.  It counts one round for a run
and one more than its characters for a text, so a text of `n` characters is read after at most
`n + 1` rounds (`Progress.exists_reaches`).
-/

namespace Bindery

namespace Markup

variable {script : Script} {text : List Char}

/-! ## What a level leaves to do -/

theorem le_total_of_mem {α : Type} (measure : α → Nat) {item : α} {items : List α}
    (h : item ∈ items) : measure item ≤ total measure items := by
  induction items with
  | nil => exact absurd h List.not_mem_nil
  | cons first items ih =>
    rw [total]
    rcases List.mem_cons.1 h with rfl | h
    · exact Nat.le_add_right _ _
    · exact Nat.le_trans (ih h) (Nat.le_add_left _ _)

theorem size_le_of_mem_segments {segment : Segment} (h : segment ∈ segments text) :
    segment.size ≤ text.length :=
  Nat.le_trans (le_total_of_mem Segment.size h) (total_size_segments text)

/-- An inner text is shorter than the text it lies in. -/
theorem length_of_mem_segments {inner label : List Char} (h : .inner label inner ∈ segments text) :
    inner.length < text.length :=
  size_le_of_mem_segments h

/-- The characters that are pending. -/
def Pending.written : Pending → List Char
  | .run r => r.text.toList
  | .text _ t => t

/-- A text that is left to do is shorter than the one it comes from. -/
theorem length_of_mem_scan {script' : Script} {inner : List Char}
    (h : .text script' inner ∈ scan script text) : inner.length < text.length :=
  Nat.le_trans (le_total_of_mem Pending.rounds h) (total_rounds_scan script text)

/-- The characters of a segment. -/
def Segment.written : Segment → List Char
  | .text t => t
  | .inner _ t => t

theorem flatMap_written_prepend (before : List Char) (segments : List Segment) :
    (prepend before segments).flatMap Segment.written =
      before ++ segments.flatMap Segment.written := by
  unfold prepend
  split
  · rw [List.flatMap_cons, List.flatMap_cons, Segment.written, Segment.written, List.append_assoc]
  · rw [List.flatMap_cons, Segment.written]

/-- The segments of a level are left of its text when some tags are taken out. -/
theorem written_sublist_segmentsOf (ps : List Piece) :
    ((segmentsOf ps).flatMap Segment.written).Sublist (ps.flatMap Piece.raw) := by
  fun_induction segmentsOf ps with
  | case1 => exact List.Sublist.refl []
  | case2 c rest ih =>
    rw [flatMap_written_prepend, List.flatMap_cons]
    exact ih.append_left [c]
  | case3 tag rest _ ih =>
    rw [flatMap_written_prepend, List.flatMap_cons]
    exact ih.append_left tag.raw
  | case4 tag rest _ inner after hsplit _ ih =>
    obtain ⟨close, -, -, rfl⟩ := append_of_splitAtClose? hsplit
    simp only [List.flatMap_cons, List.flatMap_append, Segment.written, List.nil_append]
    -- the opening tag goes, then the inner text stands, and then the closing tag goes
    refine List.Sublist.trans ?_ (List.sublist_append_right _ _)
    refine List.Sublist.append_left (List.Sublist.trans ih ?_) _
    exact List.sublist_append_right _ _
  | case5 tag rest _ _ =>
    simp [Segment.written, Piece.raw]

theorem written_sublist_filterMap (script : Script) (segments : List Segment) :
    ((segments.filterMap (Segment.pending? script)).flatMap Pending.written).Sublist
      (segments.flatMap Segment.written) := by
  induction segments with
  | nil => exact List.Sublist.refl []
  | cons segment segments ih =>
    rw [List.filterMap_cons, List.flatMap_cons]
    split
    · exact ih.trans (List.sublist_append_right _ _)
    · next pending hpending =>
      have hwritten : pending.written = segment.written := by
        cases segment with
        | inner label inner =>
          obtain rfl := Option.some.inj hpending
          rfl
        | text t =>
          rw [Segment.pending?] at hpending
          split at hpending
          · exact absurd hpending (by simp)
          · obtain rfl := Option.some.inj hpending
            exact String.toList_ofList
      rw [List.flatMap_cons, hwritten]
      exact ih.append_left _

/-- **A level leaves no more to do than there was**: what is pending is the text with some of its
characters left out. -/
theorem written_sublist_scan (script : Script) (text : List Char) :
    ((scan script text).flatMap Pending.written).Sublist text := by
  have hsegments := written_sublist_segmentsOf (pieces text)
  rw [flatMap_raw_pieces] at hsegments
  exact (written_sublist_filterMap script _).trans hsegments

/-! ## The recursion -/

/-- The runs of a text, said without a stack: each text that a level leaves to do is replaced by its
own runs. -/
def nestedRuns (script : Script) (text : List Char) : List Run :=
  (scan script text).attach.flatMap fun ⟨pending, h⟩ => match pending with
    | .run run => [run]
    | .text script inner =>
      have := length_of_mem_scan h
      nestedRuns script inner
termination_by text.length

/-- The runs that come of what is pending. -/
def Pending.runs : Pending → List Run
  | .run r => [r]
  | .text script t => nestedRuns script t

/-- The runs of a text are those of what its level leaves to do. -/
theorem nestedRuns_eq (script : Script) (text : List Char) :
    nestedRuns script text = (scan script text).flatMap Pending.runs := by
  rw [nestedRuns, List.flatMap_subtype (g := Pending.runs), List.unattach_attach]
  intro pending _
  cases pending <;> rfl

namespace Progress

/-- One round changes nothing of the runs to come. -/
theorem runs_next? {progress next : Progress} (h : progress.next? = some next) :
    next.done ++ next.stack.flatMap Pending.runs =
      progress.done ++ progress.stack.flatMap Pending.runs := by
  obtain ⟨done, stack⟩ := progress
  cases stack with
  | nil => exact absurd h (by simp [next?])
  | cons pending stack =>
    cases pending with
    | run run =>
      obtain rfl := Option.some.inj h
      rw [List.flatMap_cons, List.append_assoc]
      rfl
    | text script text =>
      obtain rfl := Option.some.inj h
      rw [List.flatMap_cons, List.flatMap_append, Pending.runs, nestedRuns_eq]

theorem stack_of_next?_eq_none {progress : Progress} (h : progress.next? = none) :
    progress.stack = [] := by
  obtain ⟨done, stack⟩ := progress
  cases stack with
  | nil => rfl
  | cons pending stack => cases pending <;> exact absurd h (by simp [next?])

/-- **What the stack gives**: the runs so far, and then those of its entries. -/
theorem finish_eq (progress : Progress) :
    progress.finish = progress.done ++ progress.stack.flatMap Pending.runs := by
  fun_induction finish progress with
  | case1 progress h => rw [stack_of_next?_eq_none h, List.flatMap_nil, List.append_nil]
  | case2 progress next h _ ih => rw [ih, runs_next? h]

/-- So many rounds lead from one state of a reading to another one. -/
inductive Reaches : Nat → Progress → Progress → Prop
  | refl (progress : Progress) : Reaches 0 progress progress
  | round {n : Nat} {progress next last : Progress} (h : progress.next? = some next)
      (hrest : Reaches n next last) : Reaches (n + 1) progress last

/-- **Reading ends.**  After no more rounds than the measure says, nothing is pending. -/
theorem exists_reaches (progress : Progress) :
    ∃ n ≤ progress.rounds, progress.Reaches n ⟨progress.finish, []⟩ := by
  fun_induction finish progress with
  | case1 progress h =>
    have hprogress : (⟨progress.done, []⟩ : Progress) = progress := by
      rw [← stack_of_next?_eq_none h]
    exact ⟨0, Nat.zero_le _, hprogress ▸ .refl _⟩
  | case2 progress next h _ ih =>
    obtain ⟨n, hn, hreaches⟩ := ih
    have hrounds := rounds_next? h
    exact ⟨n + 1, by omega, .round h hreaches⟩

end Progress

theorem runsIn_eq_nestedRuns (script : Script) (text : List Char) :
    runsIn script text = nestedRuns script text := by
  rw [runsIn, Progress.finish_eq, List.nil_append, List.flatMap_singleton, Pending.runs]

/-- **Reading ends, and gives what the recursion gives.**  One level leaves to do the text with some
characters left out, so no more of them than there were, and each text that it leaves is shorter
than the whole.  After at most one round more than the text has characters nothing is pending, and
then the runs are those of the recursion in which every text that is left to do is replaced by its
own runs. -/
theorem runsIn_reached (script : Script) (text : List Char) :
    ((scan script text).flatMap Pending.written).Sublist text ∧
      ((scan script text).map fun pending => pending.written.length).sum ≤ text.length ∧
      (∀ script' inner, .text script' inner ∈ scan script text → inner.length < text.length) ∧
      (∃ n ≤ text.length + 1,
        Progress.Reaches n ⟨[], [.text script text]⟩ ⟨runsIn script text, []⟩) ∧
      runsIn script text = nestedRuns script text := by
  have hsublist := written_sublist_scan script text
  have hlength := hsublist.length_le
  rw [List.length_flatMap] at hlength
  have hrounds : (Progress.mk [] [.text script text]).rounds = text.length + 1 := rfl
  obtain ⟨n, hn, hreaches⟩ := Progress.exists_reaches ⟨[], [.text script text]⟩
  rw [hrounds] at hn
  exact ⟨hsublist, hlength, fun _ _ h => length_of_mem_scan h, ⟨n, hn, hreaches⟩,
    runsIn_eq_nestedRuns script text⟩

end Markup

end Bindery
