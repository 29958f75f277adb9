import Bindery.Attribute.Choice
import Bindery.Binary64.Basic

/-!
# Lines
-/

namespace Bindery

/-- A drawn line: which way it runs, how long or thick it is, and its colour. -/
structure Line where
  lineType : LineType
  value : Binary64
  color : Option String
deriving DecidableEq

end Bindery
