import Bindery.Proofs.Binding.PlainRows

/-!
# The shape of bound rows

The rows that the template of a row gives form a grid (`Template.shape_bindRows`).  Its height is a
matter of the data: the scopes of the row stand below each other, each with as many rows as the
longest array in it has items, and with one row if it has no such array.  Its width is a matter of
the template: every row has a cell for each cell of the template, and these cells cover together as
many columns as those of the template say.

This holds for any template and any data, whatever cells say of their spans, and whatever is merged
and joined, with one exception.  Spans are words of 32 bits, and merging adds those of two cells as
words.  A template may ask for more columns than a word can count, and then merging can lose a
multiple of 2 ^ 32 of them.  With them goes what a cell shows whose span becomes zero, as layout
takes it for a cell that a neighbour covers (`Template.overflowingCells`).
-/

namespace Bindery

namespace Template

/-- How many columns the template covers as a cell.  What is not a cell is put into one, and covers
one column. -/
def colSpan : Template → Nat
  | node _ (.tableCell _ settings) => (settings.colSpan.getD 1).toNat
  | _ => 1

end Template

end Bindery
