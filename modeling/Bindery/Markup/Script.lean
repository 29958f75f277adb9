/-!
# Script flags

Whether a run of text is set as a subscript, as a superscript, or as both.  The flags are inherited:
what is inside a subscript is a subscript.
-/

namespace Bindery

/-- The script flags of a run of text. -/
structure Script where
  subscript : Bool
  superscript : Bool
deriving DecidableEq, Repr

namespace Script

/-- Ordinary text. -/
def plain : Script := ⟨false, false⟩

/-- The flags of text that is set in both ways. -/
def union (a b : Script) : Script :=
  ⟨a.subscript || b.subscript, a.superscript || b.superscript⟩

end Script

end Bindery
