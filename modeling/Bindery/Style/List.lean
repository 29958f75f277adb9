import Bindery.Style.Basic

/-!
# Lists of styles

A node lists its styles in order, and of two styles of one kind the later one counts.  The styles of
a node are completed by the defaults of its kind, and the result is again a list with one style of
each kind.

* `Style.dedup`: one style of each kind, at the place of the first one.
* `Style.merge`: a list completed by defaults.
* `Style.sameSet`: the same styles, in whatever order.
-/

namespace Bindery

namespace Style

/-- Put a style into a list: in the place of the one of its kind, or at the end. -/
def put (style : Style) : List Style → List Style
  | [] => [style]
  | s :: styles => if s.kind = style.kind then style :: styles else s :: put style styles

@[simp] theorem put_nil (style : Style) : put style [] = [style] := rfl

theorem put_cons (style s : Style) (styles : List Style) :
    put style (s :: styles) =
      if s.kind = style.kind then style :: styles else s :: put style styles := rfl

/-- One style of each kind: the last one of the kind, at the place of the first. -/
def dedup (styles : List Style) : List Style :=
  styles.foldl (fun kept style => put style kept) []

/-- Whether a list has a style of this kind. -/
def hasKind (kind : StyleKind) (styles : List Style) : Bool :=
  styles.any fun style => style.kind == kind

/-- A default, if the list has no style of its kind. -/
def addDefault (styles : List Style) (style : Style) : List Style :=
  if hasKind style.kind styles then styles else styles ++ [style]

/-- The explicit styles, one of each kind, and then the default of every kind they lack. -/
def merge (explicit defaults : List Style) : List Style :=
  defaults.foldl addDefault (dedup explicit)

/-- Equality of lists of styles in the given order, numbers being compared as numbers. -/
def agreeLists : List Style → List Style → Bool :=
  Scalar.agreeItems agree

/-- Whether two lists hold the same styles.  The order does not count, because a bag of styles does
not keep it. -/
def sameSet (a b : List Style) : Bool :=
  a.length == b.length && a.all fun style => b.any fun other => style.agree other

end Style

end Bindery
