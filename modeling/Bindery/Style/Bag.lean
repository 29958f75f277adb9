import Bindery.Fault
import Bindery.Node.Kind
import Bindery.Style.List
import Bindery.Style.Payload

/-!
# Bags of styles

The styles of a persisted node are the entries of one object, each a payload under the tag of its
kind.  Tags that no style is registered under are passed over.
-/

namespace Bindery

namespace Style

/-- The tag of a kind of style. -/
def tag (kind : StyleKind) : String :=
  Family.style.tag kind.typeName

/-- The bag of a list of styles with one style of each kind. -/
def encodeBag (styles : List Style) : Json :=
  .object (styles.map fun style => (tag style.kind, style.encode))

/-- The styles in the entries of a bag, in order.  `owner` is the type name of the node. -/
def decodeEntries (owner : String) : Entries Json → Except Fault (List Style)
  | [] => .ok []
  | (key, payload) :: entries =>
    match Registry.styles.resolve? key with
    | none => decodeEntries owner entries
    | some kind =>
      match decode kind payload with
      | .error reason => .error (.wrongAttribute owner ("$styles." ++ key) kind.typeName reason)
      | .ok style => (style :: ·) <$> decodeEntries owner entries

/-- The styles of a bag, one of each kind. -/
def decodeBag (owner : String) (entries : Entries Json) : Except Fault (List Style) :=
  dedup <$> decodeEntries owner entries

end Style

end Bindery
