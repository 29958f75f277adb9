import Bindery.Binding.Basic
import Bindery.Binding.Options
import Bindery.Doc.Catalog
import Bindery.Doc.Numbering
import Bindery.Template.Persisted

/-!
# Binding a document

A document is bound from the root of a template and then finished: its expressions are numbered and
its catalogs filled, in this order, as the options say.  The only fault of a template is that its
root gives nothing.

* `Template.bindDocument`: the document of a template and a model.
* `Template.bindTexts`: the same for a template and a model that come as text.
-/

namespace Bindery

/-- A bound document, finished. -/
def Options.finish (options : Options) (doc : Doc) : Doc :=
  let doc := if options.numberExpressions then doc.numberExpressions else doc
  if options.buildCatalog then doc.fillCatalogs else doc

namespace Template

/-- What every node has of its own. -/
def kind : Template → Kind Template
  | node _ kind => kind

/-- The document that a template becomes for a model. -/
def bindDocument (options : Options) (template : Template) (model : Json) : Except Fault Doc :=
  match template.bindChild model with
  | some doc => .ok (options.finish doc)
  | none => .error (.noOutput template.kind.nodeKind.templateName)

/-- The document of a template and a model that come as text. -/
def bindTexts (options : Options) (template model : String) : Except Fault Doc := do
  let template ← ofText template
  let model ← readText model
  bindDocument options template model

end Template

end Bindery
