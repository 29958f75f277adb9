import Bindery.Doc.Walk

/-!
# Numbering expressions

The live expressions of a document are numbered from one in document order, and every span that
refers to one of them by its id is given the number.  Where an id is used more than once, the first
expression is meant; the expression may come after the span.
-/

namespace Bindery

namespace Doc

/-- Whether the node is an expression. -/
def isExpression (doc : Doc) : Bool :=
  doc.nodeKind == .expression

/-- The id of an expression, which it may lack. -/
def expressionId? (doc : Doc) : Option (Option String) :=
  match doc.kind with
  | .expression id _ _ => some id
  | _ => none

/-- The ids of the live expressions, in document order. -/
def expressionIds (doc : Doc) : List (Option String) :=
  doc.live.filterMap expressionId?

/-- The number of the first expression with an id. -/
def indexOf? (ids : List (Option String)) (id : String) : Option UInt32 :=
  (ids.idxOf? (some id)).map fun before => UInt32.ofNat (before + 1)

/-- The number that a node is given, if it is an expression, or that of the expression it refers
to. -/
def numberNote (ids : List (Option String)) (before : Nat) (doc : Doc) : Note :=
  match doc.kind with
  | .expression .. => .index (UInt32.ofNat (before + 1))
  | .span _ text =>
    match text.reference with
    | some id => .referenceIndex (indexOf? ids id)
    | none => .nothing
  | _ => .nothing

/-- A document with its expressions numbered. -/
def numberExpressions (doc : Doc) : Doc :=
  doc.annotate isExpression (numberNote doc.expressionIds)

end Doc

end Bindery
