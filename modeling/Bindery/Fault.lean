import Bindery.Attribute.Mismatch
import Bindery.Json.Token

/-!
# Faults

Everything that can keep a document from being made: a text that is no JSON, a persisted tree with
an attribute of the wrong shape, a tree whose root has no known type, and a root template that
produces nothing.  A path that leads nowhere is never a fault.
-/

namespace Bindery

/-- Why there is no result. -/
inductive Fault where
  /-- The text is not JSON, or not JSON of the expected form. -/
  | text (fault : Json.Fault)
  /-- An attribute of a node of this type cannot be read as the expected type. -/
  | wrongAttribute (node name expected : String) (reason : Mismatch)
  /-- The root has this tag, which no type is registered under. -/
  | unknownType (tag : String)
  /-- The root template, of this type, produces nothing. -/
  | noOutput (typeName : String)

/-- What to look for in a text that was refused. -/
def Json.Fault.hint : Json.Fault → String
  | .malformed => "Check for trailing commas, missing quotes, or unescaped characters."
  | .truncated => "Unexpected end of input. Is the JSON truncated?"
  | .mismatch =>
    "The JSON is valid but doesn't match the expected shape. Check field names and types."

/-- What is wrong with a text that was refused. -/
def Json.Fault.reason : Json.Fault → String
  | .malformed => "malformed text"
  | .truncated => "unexpected end of text"
  | .mismatch => "unexpected value"

/-- The wording of a fault. -/
def Fault.message : Fault → String
  | .text fault => "Failed to parse JSON: " ++ fault.reason ++ "\n  Hint: " ++ fault.hint
  | .wrongAttribute node name expected reason =>
    "Load " ++ node ++ " - " ++ name ++ " failed, can't be converted to " ++ expected ++ ": " ++
      reason.message
  | .unknownType tag => "Unknown node type: " ++ Text.quoted tag
  | .noOutput typeName => "Template error: root " ++ typeName ++ " produced no output"

end Bindery
