import Bindery.Text.Lowercase
import Bindery.Text.WordChar
import Bindery.Markup.Script

/-!
# Tags

A tag is a name of one or more word characters between angle brackets, with a slash before the name
if it closes.  Everything else is text, also an angle bracket that belongs to no tag.  Two tags have
the same name when their small forms are equal.

* `Markup.pieces`: a text as characters and tags; `Piece.raw` gives back each part.
-/

namespace Bindery

namespace Markup

/-- An opening or closing tag. -/
structure Tag where
  closing : Bool
  /-- The name as it is written. -/
  name : List Char
deriving DecidableEq, Repr

namespace Tag

/-- The tag as it is written. -/
def raw (tag : Tag) : List Char :=
  '<' :: (if tag.closing then ['/'] else []) ++ tag.name ++ ['>']

/-- The name by which tags are compared. -/
def label (tag : Tag) : List Char :=
  Text.lowerAfter [] tag.name

/-- The tag that a text starts with, given what follows its first angle bracket and slash, and what
follows the tag. -/
def afterBracket? (closing : Bool) (text : List Char) : Option (Tag × List Char) :=
  match text.dropWhile Text.isWordChar with
  | '>' :: rest =>
    match text.takeWhile Text.isWordChar with
    | [] => none
    | name => some (⟨closing, name⟩, rest)
  | _ => none

/-- The tag that a text starts with, if there is one, and what follows it. -/
def first? : List Char → Option (Tag × List Char)
  | '<' :: '/' :: text => afterBracket? true text
  | '<' :: text => afterBracket? false text
  | _ => none

theorem raw_of_afterBracket? {closing : Bool} {text rest : List Char} {tag : Tag}
    (h : afterBracket? closing text = some (tag, rest)) :
    tag.closing = closing ∧ text = tag.name ++ '>' :: rest := by
  unfold afterBracket? at h
  split at h
  · next after hafter =>
    split at h
    · simp at h
    · simp only [Option.some.injEq, Prod.mk.injEq] at h
      obtain ⟨rfl, rfl⟩ := h
      exact ⟨rfl, by rw [← hafter, List.takeWhile_append_dropWhile]⟩
  · simp at h

/-- A text that starts with a tag is the tag as it is written, and then the rest. -/
theorem raw_of_first? {text rest : List Char} {tag : Tag} (h : first? text = some (tag, rest)) :
    text = tag.raw ++ rest := by
  unfold first? at h
  split at h
  · obtain ⟨hclosing, rfl⟩ := raw_of_afterBracket? h
    simp [raw, hclosing]
  · obtain ⟨hclosing, rfl⟩ := raw_of_afterBracket? h
    simp [raw, hclosing]
  · simp at h

theorem two_le_length_raw (tag : Tag) : 2 ≤ tag.raw.length := by
  simp only [raw, List.length_append, List.length_cons, List.length_nil]
  omega

theorem length_first? {text rest : List Char} {tag : Tag} (h : first? text = some (tag, rest)) :
    rest.length < text.length := by
  have := two_le_length_raw tag
  rw [raw_of_first? h, List.length_append]
  omega

end Tag

/-- A part of a text with tags. -/
inductive Piece where
  | char (c : Char)
  | tag (tag : Tag)
deriving DecidableEq, Repr

/-- The part as it is written. -/
def Piece.raw : Piece → List Char
  | .char c => [c]
  | .tag t => t.raw

/-- The parts of a text, from left to right. -/
def pieces : List Char → List Piece
  | [] => []
  | c :: text =>
    match h : Tag.first? (c :: text) with
    | some (tag, rest) =>
      have := Tag.length_first? h
      .tag tag :: pieces rest
    | none => .char c :: pieces text
termination_by text => text.length
decreasing_by
  · assumption
  · exact Nat.lt_succ_self _

/-- The parts of a text make up the text. -/
theorem flatMap_raw_pieces (text : List Char) : (pieces text).flatMap Piece.raw = text := by
  fun_induction pieces text with
  | case1 => rfl
  | case2 c text tag rest h _ ih => simp [Piece.raw, ih, Tag.raw_of_first? h]
  | case3 c text _ ih => simp [Piece.raw, ih]

/-- Whether a part is a tag. -/
def Piece.isTag : Piece → Bool
  | .char _ => false
  | .tag _ => true

/-- Whether a text has any tag. -/
def hasTag (text : List Char) : Bool :=
  (pieces text).any Piece.isTag

end Markup

end Bindery
