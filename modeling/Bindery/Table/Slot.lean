import Bindery.Doc.Content
import Bindery.Doc.Persisted

/-!
# Slots

While a table is laid out, a slot is a place of its grid: what will be a cell, with spans that are
still growing.  A span of zero says that a neighbour covers the place, and no span stands for a span
of one.

Spans are words of 32 bits, and they grow by the addition of words.  So a slot that would come to
cover 2 ^ 32 rows or columns starts again from zero, and then it is a slot that a neighbour covers.
-/

namespace Bindery

namespace Table

/-- A place in the grid of a table. -/
structure Slot where
  styles : List Style
  flags : Flags
  element : Option Doc
  rowSpan : Option UInt32
  colSpan : Option UInt32

namespace Slot

/-- A slot without content, with the given spans. -/
def placeholder (rowSpan colSpan : Option UInt32) : Slot :=
  { styles := [], flags := .unset, element := none, rowSpan, colSpan }

/-- A slot that holds an element and nothing else. -/
def ofElement (element : Option Doc) : Slot :=
  { styles := [], flags := .unset, element, rowSpan := none, colSpan := none }

/-- The word for the rows that the slot covers. -/
def height (slot : Slot) : UInt32 :=
  slot.rowSpan.getD 1

/-- The word for the columns that the slot covers. -/
def width (slot : Slot) : UInt32 :=
  slot.colSpan.getD 1

/-- How many rows the slot covers. -/
def rows (slot : Slot) : Nat :=
  slot.height.toNat

/-- How many columns the slot covers. -/
def columns (slot : Slot) : Nat :=
  slot.width.toNat

/-- Whether a slot above covers the place. -/
def isBelow (slot : Slot) : Bool :=
  slot.rows == 0

/-- Whether a neighbour covers the place. -/
def isCovered (slot : Slot) : Bool :=
  slot.rows == 0 || slot.columns == 0

/-- Whether the slot shows nothing. -/
def isBlank (slot : Slot) : Bool :=
  slot.element.all Doc.isEmpty

/-- Whether two slots hold equal elements. -/
def sameElement (a b : Slot) : Bool :=
  Scalar.agreeOption Doc.agree a.element b.element

/-- The slot over one more row. -/
def lengthen (slot : Slot) : Slot :=
  { slot with rowSpan := some (slot.height + 1) }

/-- The slot over more columns. -/
def widen (slot : Slot) (more : UInt32) : Slot :=
  { slot with colSpan := some (slot.width + more) }

/-- The slot covered from above. -/
def underAbove (slot : Slot) : Slot :=
  { slot with rowSpan := some 0 }

/-- The slot covered from its side. -/
def underSide (slot : Slot) : Slot :=
  { slot with colSpan := some 0 }

/-- A slot that is covered keeps its place and its flags, but nothing to draw. -/
def clear (slot : Slot) : Slot :=
  if slot.isCovered then { slot with styles := [], element := none } else slot

/-- The cell that a slot becomes. -/
def toDoc (slot : Slot) : Doc :=
  .node ⟨slot.styles, slot.flags⟩ (.tableCell slot.element slot.rowSpan slot.colSpan)

/-- A slot over one more row, as long as a word can count its rows. -/
theorem rows_lengthen {slot : Slot} (h : slot.rows + 1 < UInt32.size) :
    slot.lengthen.rows = slot.rows + 1 := by
  have hword : slot.lengthen.rows = (slot.height + 1).toNat := rfl
  rw [hword, UInt32.toNat_add]
  exact Nat.mod_eq_of_lt h

/-- The columns of two slots are put together as words. -/
theorem columns_widen (slot : Slot) (more : UInt32) :
    (slot.widen more).columns = (slot.columns + more.toNat) % UInt32.size :=
  UInt32.toNat_add slot.width more

end Slot

/-- The rows of a table, each with its slots from left to right. -/
abbrev Grid := List (List Slot)

end Table

end Bindery
