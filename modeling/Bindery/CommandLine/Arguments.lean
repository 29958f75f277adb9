/-!
# Command line arguments

Two flags take a value, the argument after them.  The value is found by looking for the first
occurrence of the flag anywhere, so that an argument may be the value of one flag and switch on
another.  What is left once flags and their values are passed over, and does not begin with a dash,
are the paths of the template and of the model.

* `Arguments.ofList`: what a list of arguments asks for.
-/

namespace Bindery

/-- What the arguments ask for. -/
structure Arguments where
  /-- Write an example template and do nothing else. -/
  wantsExample : Bool
  template : Option String
  /-- Where the model is.  Without a path it is read from the input. -/
  model : Option String
  /-- Where to write the document. -/
  output : Option String
  /-- Where the options are. -/
  options : Option String
  /-- Write plain text in place of the document. -/
  asText : Bool
deriving DecidableEq, Repr

namespace Arguments

/-- Asks for an example template. -/
def exampleFlag : String := "--example"

/-- Asks for plain text. -/
def textFlag : String := "--text"

/-- Names the file to write. -/
def outputFlag : String := "-o"

/-- Names the file of the options. -/
def optionsFlag : String := "--options"

/-- Whether a flag takes the argument after it as its value. -/
def takesValue (argument : String) : Bool :=
  argument == outputFlag || argument == optionsFlag

/-- The argument after the first occurrence of a flag that has one after it. -/
def valueOf? (flag : String) : List String → Option String
  | argument :: value :: arguments =>
    if argument == flag then some value else valueOf? flag (value :: arguments)
  | _ => none

/-- Whether an argument begins with a dash. -/
def isFlag (argument : String) : Bool :=
  argument.toList.head? == some '-'

/-- The arguments that are neither flags nor values of flags. -/
def positionals : List String → List String
  | [] => []
  | [argument] => if isFlag argument then [] else [argument]
  | argument :: next :: arguments =>
    if takesValue argument then positionals arguments
    else if isFlag argument then positionals (next :: arguments)
    else argument :: positionals (next :: arguments)

/-- What a list of arguments asks for. -/
def ofList (arguments : List String) : Arguments :=
  let paths := positionals arguments
  { wantsExample := arguments.contains exampleFlag
    template := paths[0]?
    model := paths[1]?
    output := valueOf? outputFlag arguments
    options := valueOf? optionsFlag arguments
    asText := arguments.contains textFlag }

end Arguments

end Bindery
