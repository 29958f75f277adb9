import Bindery.Binary64.Fixed
import Bindery.Json.Printer
import Bindery.Json.Reader
import Bindery.Text.Blank
import Bindery.Text.Lowercase
import Bindery.Text.Quoted
import Bindery.Text.WordChar
import Bindery.AccessPath
import Bindery.Format.Placeholder
import Bindery.Markup.Run
import Bindery.Style.List
import Bindery.Style.Payload
import Bindery.Node.Kind
import Bindery.Node.Parts
import Bindery.Template.Basic
import Bindery.Doc.Basic
import Bindery.Template.Persisted
import Bindery.Doc.Persisted
import Bindery.Doc.Content
import Bindery.Doc.Events
import Bindery.Doc.PlainText
import Bindery.Table.Layout
import Bindery.Doc.Numbering
import Bindery.Doc.Catalog
import Bindery.Doc.Edit
import Bindery.Binding.Basic
import Bindery.Binding.Document
import Bindery.Template.Build
import Bindery.CommandLine.Run
import Bindery.Main
import Bindery.Proofs.Attribute.Scalar
import Bindery.Proofs.Entries
import Bindery.Proofs.Json.Keys
import Bindery.Proofs.Json.Lockstep
import Bindery.Proofs.Registry
import Bindery.Proofs.CommandLine.Roles
import Bindery.Proofs.Style.Bag
import Bindery.Proofs.Node.Parts
import Bindery.Proofs.Template.RoundTrip
import Bindery.Proofs.Doc.RoundTrip
import Bindery.Proofs.Node.Insertion
import Bindery.Proofs.Node.Overlay
import Bindery.Proofs.Node.Rejection
import Bindery.Proofs.Text.Lowercase
import Bindery.Proofs.Registry.Runs
import Bindery.Proofs.Node.Recased
import Bindery.Proofs.Doc.Redrawing
import Bindery.Proofs.Doc.Deleted
import Bindery.Proofs.Doc.Equality
import Bindery.Proofs.Doc.Equivalence
import Bindery.Proofs.Style.Assignment
import Bindery.Proofs.Style.Payload
import Bindery.Proofs.Doc.EqualDrawing
import Bindery.Proofs.Doc.NestedRuns
import Bindery.Proofs.Doc.DrawnTexts
import Bindery.Proofs.Doc.Emptiness
import Bindery.Proofs.Doc.Walk
import Bindery.Proofs.Doc.Numbering
import Bindery.Proofs.Doc.Catalog
import Bindery.Proofs.Doc.Links
import Bindery.Proofs.Doc.ReadingOrder
import Bindery.Proofs.Doc.Nesting
import Bindery.Proofs.Doc.References
import Bindery.Proofs.Doc.Reduced
import Bindery.Proofs.Table.Content
import Bindery.Proofs.Table.Kept
import Bindery.Proofs.Table.Reduced
import Bindery.Proofs.Table.Gathering
import Bindery.Proofs.Table.RunLength
import Bindery.Proofs.Binding.Rows
import Bindery.Proofs.Binding.Fresh
import Bindery.Proofs.Binding.Passes
import Bindery.Proofs.Binding.References
import Bindery.Proofs.Binding.SpanText
import Bindery.Proofs.Binding.AccessPath
import Bindery.Proofs.Binding.Lockstep
import Bindery.Proofs.Binding.Reduced
import Bindery.Proofs.Binding.PlainRows
import Bindery.Proofs.Binding.JoinedRows
import Bindery.Proofs.Binding.GridShape
import Bindery.Proofs.Markup.Literal
import Bindery.Proofs.Markup.Conservation
import Bindery.Proofs.Binary64.Rounding
import Bindery.Proofs.Digits
import Bindery.Proofs.Binary64.Shortest
import Bindery.Proofs.Binary64.Nearest
import Bindery.Proofs.Json.Number
import Bindery.Proofs.Json.Quoted
import Bindery.Proofs.Json.Spelling
import Bindery.Proofs.Json.RoundTrip
import Bindery.Proofs.Format.Placeholder
import Bindery.Proofs.Format.Number
import Bindery.Proofs.Format.Grouping
import Bindery.Proofs.Doc.Text
import Bindery.Proofs.Doc.LineBreaks
import Bindery.Proofs.Doc.PlainLines
import Bindery.Proofs.Doc.Flow
import Bindery.Proofs.Doc.ListEntries
import Bindery.Proofs.Binding.Text
import Bindery.Proofs.Binding.Emptiness
import Bindery.Proofs.Numeral.Alphabetic
import Bindery.Proofs.Numeral.Roman
