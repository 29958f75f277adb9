import Bindery.Doc.Basic
import Bindery.Markup.Run
import Bindery.Template.Basic
import Bindery.Text.Blank

/-!
# The text of a bound span

A span without spans of its own gets its text from the template if there is one that is not blank,
and else from its scope.  Script markup in the text is resolved into runs, and a text without
markup stays a text.  Only a string in the scope can hold markup; other scalars are put in the
format of the span.

* `SpanSource.runs`: the spans that stand for a text with markup.
* `SpanSource.text`: the text of a span, given its spans.
-/

namespace Bindery

/-- A flag that is only said where it is set. -/
def saidIf (flag : Bool) : Option Bool :=
  if flag then some true else none

/-- A run of text as a span. -/
def Doc.ofRun (run : Markup.Run) : Doc :=
  .ofKind (.span [] ⟨some run.text, saidIf run.script.subscript, saidIf run.script.superscript,
    none, none⟩)

namespace Template

namespace SpanSource

/-- The text that the template gives.  A blank text counts as none. -/
def literal? (source : SpanSource) : Option String :=
  source.value.filter fun text => !Text.isBlank text.toList

/-- The text that may hold markup: the one of the template, or else a string in the scope. -/
def markupText? (source : SpanSource) (scope : Json) : Option String :=
  source.literal?.or scope.string?

/-- The spans that the markup of a text makes; none if it has no markup. -/
def runs (source : SpanSource) (scope : Json) : List Doc :=
  match source.markupText? scope with
  | some text => if Markup.hasTag text.toList then (Markup.runs text).map Doc.ofRun else []
  | none => []

/-- The text of a span without spans. -/
def plainText (source : SpanSource) (scope : Json) : Option String :=
  source.literal?.or (SpanFormat.apply source.format scope)

/-- The text of a span with the given spans.  One that has spans has no text of its own. -/
def text (source : SpanSource) (scope : Json) (spans : List Doc) : Doc.SpanText where
  value := if spans.isEmpty then source.plainText scope else none
  subscript := source.subscript
  superscript := source.superscript
  reference := source.reference
  referenceIndex := none

end SpanSource

end Template

end Bindery
