import Bindery.Markup.Tag
import Bindery.Text.Blank

/-!
# Runs of marked-up text

A text with tags becomes a list of runs.  One level of the text is split first (`segments`): what
stands outside of all tags is text, and an opening tag reaches to the closing tag of its name that
balances it.  Only tags of that name count towards the balance, so what lies between is carried as
text and split in turn, with the flag of the tag.  The tags `sub` and `sup` set a flag, other tags
only group.

Nothing is an error.  A closing tag that closes nothing is text, and so is a tag that is never
closed, together with everything after it.  Text that is blank gives no run.

What is still to be read stands on a stack, and one round takes what is on top: a text is split, and
its parts are put in its place.  This comes to an end, since the parts of a text have fewer
characters than the text: an inner text has lost at least the tags around it.

* `Markup.segments`: one level; `total_size_segments` says that it is not larger than its text.
* `Markup.Progress.next?`: one round; `rounds_next?` is the measure.
* `Markup.runs`: the runs of a text.
-/

namespace Bindery

namespace Markup

/-- Text of one script. -/
structure Run where
  text : String
  script : Script
deriving DecidableEq, Repr

/-- What one level of a text consists of. -/
inductive Segment where
  /-- Text that is kept as it is. -/
  | text (text : List Char)
  /-- What stands between an opening tag with this label and the tag that closes it. -/
  | inner (label : List Char) (text : List Char)
deriving DecidableEq, Repr

/-- The parts up to the closing tag with this label that balances the tags of the label among them,
of which `extra` are open to begin with, and the parts after that tag. -/
def splitAtClose? (label : List Char) (extra : Nat) : List Piece → Option (List Piece × List Piece)
  | [] => none
  | piece :: rest =>
    let go (extra : Nat) := (splitAtClose? label extra rest).map fun (inner, after) =>
      (piece :: inner, after)
    match piece with
    | .char _ => go extra
    | .tag tag =>
      if tag.label ≠ label then go extra
      else if !tag.closing then go (extra + 1)
      else match extra with
        | 0 => some ([], rest)
        | extra + 1 => go extra

/-- What lies before and after the balancing tag is all there is besides that tag. -/
theorem append_of_splitAtClose? {label : List Char} {extra : Nat} {pieces inner after : List Piece}
    (h : splitAtClose? label extra pieces = some (inner, after)) :
    ∃ tag, tag.closing = true ∧ tag.label = label ∧ pieces = inner ++ .tag tag :: after := by
  induction pieces generalizing extra inner with
  | nil => simp [splitAtClose?] at h
  | cons piece rest ih =>
    have step {extra : Nat}
        (h : (splitAtClose? label extra rest).map (fun p => (piece :: p.1, p.2))
          = some (inner, after)) :
        ∃ tag, tag.closing = true ∧ tag.label = label ∧
          piece :: rest = inner ++ .tag tag :: after := by
      obtain ⟨⟨inner', after'⟩, h', heq⟩ := Option.map_eq_some_iff.1 h
      simp only [Prod.mk.injEq] at heq
      obtain ⟨rfl, rfl⟩ := heq
      obtain ⟨tag, hclosing, hlabel, rfl⟩ := ih h'
      exact ⟨tag, hclosing, hlabel, rfl⟩
    simp only [splitAtClose?] at h
    split at h
    · exact step h
    · next tag =>
      split at h
      · exact step h
      · next hlabel =>
        split at h
        · exact step h
        · next hclosing =>
          split at h
          · simp only [Option.some.injEq, Prod.mk.injEq] at h
            obtain ⟨rfl, rfl⟩ := h
            exact ⟨tag, by simpa using hclosing, by simpa using hlabel, rfl⟩
          · exact step h

/-- Characters put before the text of a level. -/
def prepend (before : List Char) : List Segment → List Segment
  | .text text :: rest => .text (before ++ text) :: rest
  | segments => .text before :: segments

/-- The segments of a level.  The first one is text, possibly empty. -/
def segmentsOf : List Piece → List Segment
  | [] => [.text []]
  | .char c :: rest => prepend [c] (segmentsOf rest)
  | .tag tag :: rest =>
    if tag.closing then prepend tag.raw (segmentsOf rest)
    else match h : splitAtClose? tag.label 0 rest with
      | some (inner, after) =>
        have : after.length < rest.length := by
          obtain ⟨_, _, _, rfl⟩ := append_of_splitAtClose? h
          simp only [List.length_append, List.length_cons]
          omega
        .text [] :: .inner tag.label (inner.flatMap Piece.raw) :: segmentsOf after
      | none => [.text [], .text (tag.raw ++ rest.flatMap Piece.raw)]
termination_by pieces => pieces.length

/-- The segments of a text. -/
def segments (text : List Char) : List Segment :=
  segmentsOf (pieces text)

/-- What the items of a list measure together. -/
def total {α : Type} (measure : α → Nat) : List α → Nat
  | [] => 0
  | item :: items => measure item + total measure items

theorem total_append {α : Type} (measure : α → Nat) (items items' : List α) :
    total measure (items ++ items') = total measure items + total measure items' := by
  induction items with
  | nil => exact (Nat.zero_add _).symm
  | cons item items ih => rw [List.cons_append, total, total, ih, Nat.add_assoc]

/-- How many characters of a text the segment stands for, at the least: those of its own text, and
one for the tags around an inner text. -/
def Segment.size : Segment → Nat
  | .text t => t.length
  | .inner _ t => t.length + 1

theorem total_size_prepend (before : List Char) (segments : List Segment) :
    total Segment.size (prepend before segments) =
      before.length + total Segment.size segments := by
  unfold prepend
  split
  · rw [total, total, Segment.size, Segment.size, List.length_append, Nat.add_assoc]
  · rw [total, Segment.size]

/-- The segments of a level are not larger than the level. -/
theorem total_size_segmentsOf (ps : List Piece) :
    total Segment.size (segmentsOf ps) ≤ (ps.flatMap Piece.raw).length := by
  fun_induction segmentsOf ps with
  | case1 => exact Nat.le_refl 0
  | case2 c rest ih =>
    rw [total_size_prepend, List.flatMap_cons, List.length_append]
    exact Nat.add_le_add_left ih _
  | case3 tag rest _ ih =>
    rw [total_size_prepend, List.flatMap_cons, List.length_append]
    exact Nat.add_le_add_left ih _
  | case4 tag rest _ inner after hsplit _ ih =>
    obtain ⟨close, _, _, rfl⟩ := append_of_splitAtClose? hsplit
    have := Tag.two_le_length_raw tag
    simp only [total, Segment.size, List.length_nil, List.flatMap_cons, List.flatMap_append,
      List.length_append, Piece.raw]
    omega
  | case5 tag rest _ _ =>
    simp [total, Segment.size, Piece.raw]

/-- The segments of a text are not larger than the text. -/
theorem total_size_segments (text : List Char) :
    total Segment.size (segments text) ≤ text.length := by
  have := total_size_segmentsOf (pieces text)
  rwa [flatMap_raw_pieces] at this

/-! ## Runs -/

/-- The script inside a tag with this label. -/
def scriptInside (script : Script) (label : List Char) : Script :=
  if label = ['s', 'u', 'b'] then { script with subscript := true }
  else if label = ['s', 'u', 'p'] then { script with superscript := true }
  else script

/-- What is pending while a text is read. -/
inductive Pending where
  /-- A run that is finished. -/
  | run (run : Run)
  /-- A text in a script that is still to be split. -/
  | text (script : Script) (text : List Char)
deriving DecidableEq, Repr

/-- What a segment of a text in the given script leaves to do.  Blank text leaves nothing. -/
def Segment.pending? (script : Script) : Segment → Option Pending
  | .text t => if Text.isBlank t then none else some (.run ⟨String.ofList t, script⟩)
  | .inner label t => some (.text (scriptInside script label) t)

/-- What one level of a text in the given script leaves to do, in reading order. -/
def scan (script : Script) (text : List Char) : List Pending :=
  (segments text).filterMap (Segment.pending? script)

/-- How many rounds it takes at the most until a part is finished with all that comes of it. -/
def Pending.rounds : Pending → Nat
  | .run _ => 1
  | .text _ t => t.length + 1

theorem rounds_of_pending? {script : Script} {segment : Segment} {pending : Pending}
    (h : segment.pending? script = some pending) : pending.rounds ≤ segment.size := by
  cases segment with
  | inner label inner =>
    obtain rfl := Option.some.inj h
    exact Nat.le_refl _
  | text text =>
    rw [Segment.pending?] at h
    split at h
    · exact absurd h (by simp)
    · next hblank =>
      obtain rfl := Option.some.inj h
      cases text with
      | nil => exact absurd Text.isBlank_nil hblank
      | cons c text => exact Nat.le_add_left 1 _

theorem total_rounds_filterMap (script : Script) (segments : List Segment) :
    total Pending.rounds (segments.filterMap (Segment.pending? script)) ≤
      total Segment.size segments := by
  induction segments with
  | nil => exact Nat.le_refl 0
  | cons segment segments ih =>
    rw [List.filterMap_cons, total]
    split
    · exact Nat.le_trans ih (Nat.le_add_left _ _)
    · next pending hpending =>
      exact Nat.add_le_add (rounds_of_pending? hpending) ih

/-- **A level leaves fewer rounds** than there were for its text. -/
theorem total_rounds_scan (script : Script) (text : List Char) :
    total Pending.rounds (scan script text) ≤ text.length :=
  Nat.le_trans (total_rounds_filterMap script _) (total_size_segments text)

/-- A text that is being read. -/
structure Progress where
  /-- The runs so far. -/
  done : List Run
  /-- What is pending, with what comes next in the text on top. -/
  stack : List Pending

namespace Progress

/-- One round: a finished run is put with the runs so far, and in place of a text come the parts of
its level.  There is none if nothing is pending. -/
def next? : Progress → Option Progress
  | ⟨_, []⟩ => none
  | ⟨done, .run run :: stack⟩ => some ⟨done ++ [run], stack⟩
  | ⟨done, .text script text :: stack⟩ => some ⟨done, scan script text ++ stack⟩

/-- How many rounds are left at the most. -/
def rounds (progress : Progress) : Nat :=
  total Pending.rounds progress.stack

/-- Every round leaves fewer rounds. -/
theorem rounds_next? {progress next : Progress} (h : progress.next? = some next) :
    next.rounds < progress.rounds := by
  obtain ⟨done, stack⟩ := progress
  cases stack with
  | nil => exact absurd h (by simp [next?])
  | cons pending stack =>
    cases pending with
    | run run =>
      obtain rfl := Option.some.inj h
      simp only [rounds, total, Pending.rounds]
      omega
    | text script text =>
      obtain rfl := Option.some.inj h
      have := total_rounds_scan script text
      simp only [rounds, total, Pending.rounds, total_append]
      omega

/-- The runs once nothing is pending any more. -/
def finish (progress : Progress) : List Run :=
  match h : progress.next? with
  | none => progress.done
  | some next =>
    have := rounds_next? h
    next.finish
termination_by progress.rounds

end Progress

/-- The runs of a text that stands in the given script. -/
def runsIn (script : Script) (text : List Char) : List Run :=
  (Progress.mk [] [.text script text]).finish

/-- The runs of a text. -/
def runs (text : String) : List Run :=
  runsIn .plain text.toList

end Markup

end Bindery
