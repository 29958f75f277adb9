import Bindery.Binding.Document
import Bindery.CommandLine.Arguments
import Bindery.CommandLine.Example
import Bindery.Doc.PlainText

/-!
# Runs of the command

A run reads a template, a model and, if asked, options, binds them and writes the document.  What it
needs from outside is a `Host`; what it leaves behind besides a written file is an `Outcome`.  The
first thing that goes wrong ends the run, in the order in which things are read.

* `CommandLine.run`: a run with the given arguments.
-/

namespace Bindery

namespace CommandLine

/-- Access to files and to the input.  An access can fail for a reason that is given as text. -/
structure Host (m : Type → Type) where
  fileText : String → m (Except String String)
  inputText : m (Except String String)
  putFile : String → String → m (Except String Unit)

/-- What a run shows. -/
structure Outcome where
  exitCode : UInt32
  output : String
  messages : String
deriving DecidableEq, Repr

/-- Why a run fails. -/
inductive Failure where
  /-- No template is named. -/
  | usage
  | unreadable (path reason : String)
  | unreadableInput (reason : String)
  | options (fault : Fault)
  | binding (fault : Fault)
  | unwritable (reason : String)

/-- The wording of what failed, and why. -/
def failed (what why : String) : String :=
  "✗ " ++ what ++ ": " ++ why ++ "\n"

namespace Failure

/-- The wording of a failure. -/
def message : Failure → String
  | usage =>
    "Usage: folio <template.json> [model.json] [-o out.json] [--text] [--options opts.json]\n"
  | unreadable path reason => failed ("Failed to read " ++ path) reason
  | unreadableInput reason => failed "Failed to read stdin" reason
  | options fault => failed "Failed to parse options" fault.message
  | binding fault => failed "Failed to bind template" fault.message
  | unwritable reason => failed "Failed to write output" reason

/-- What a run shows that fails. -/
def outcome (failure : Failure) : Outcome where
  exitCode := match failure with
    | usage => 2
    | _ => 1
  output := ""
  messages := failure.message

end Failure

/-- What a run shows that succeeds. -/
def succeed (output messages : String) : Outcome :=
  { exitCode := 0, output, messages }

/-- A step of a run, which may fail. -/
abbrev Step (m : Type → Type) : Type → Type :=
  ExceptT Failure m

section Run

variable {m : Type → Type} [Monad m] (host : Host m)

/-- The text of a file. -/
def readFile (path : String) : Step m String := do
  match ← host.fileText path with
  | .ok text => return text
  | .error reason => throw (.unreadable path reason)

/-- The text of the input. -/
def readInput : Step m String := do
  match ← host.inputText with
  | .ok text => return text
  | .error reason => throw (.unreadableInput reason)

/-- The options of a run. -/
def readOptions : Option String → Step m Options
  | none => return .standard
  | some path => do
    match Options.ofText (← readFile host path) with
    | .ok options => return options
    | .error fault => throw (.options (.text fault))

/-- The text that a run writes for a document. -/
def written (asText : Bool) (doc : Doc) : String :=
  if asText then doc.plainText else doc.toText

/-- Write the result: into a file, which is told, or to the output, with a line break after it. -/
def write (path : Option String) (text : String) : Step m Outcome := do
  match path with
  | none => return succeed (text ++ "\n") ""
  | some path =>
    match ← host.putFile path text with
    | .ok () =>
      return succeed ""
        ("✓ Written " ++ toString text.utf8ByteSize ++ " bytes to " ++ path ++ "\n")
    | .error reason => throw (.unwritable reason)

/-- Bind a template and write the document. -/
def bindAndWrite (arguments : Arguments) : Step m Outcome := do
  let some path := arguments.template | throw .usage
  let template ← readFile host path
  let model ← match arguments.model with
    | some path => readFile host path
    | none => readInput host
  let options ← readOptions host arguments.options
  match Template.bindTexts options template model with
  | .ok doc => write host arguments.output (written arguments.asText doc)
  | .error fault => throw (.binding fault)

/-- A run with the given arguments. -/
def run (arguments : List String) : m Outcome := do
  let arguments := Arguments.ofList arguments
  if arguments.wantsExample then return succeed exampleTemplate ""
  match ← (bindAndWrite host arguments).run with
  | .ok outcome => return outcome
  | .error failure => return failure.outcome

end Run

end CommandLine

end Bindery
