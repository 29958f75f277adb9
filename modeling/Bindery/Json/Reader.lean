import Bindery.Json.Token

/-!
# Reading a JSON value from tokens

The reader is a machine that takes one token at a time.  Between two tokens it knows the arrays and
objects that are still open (`Frame`) and what may come next (`Expectation`), and nothing else, so
that reading a text is a fold over its tokens and the first fault in the text is the one reported.

A text may nest arrays and objects only up to a limit.  `Json.Mode` gives the limit and says
whether scalars are read as values or only skipped.

* `Json.step`: the machine.
* `Json.ofText`: the value of a text within the usual limit.
-/

namespace Bindery

namespace Json

/-- An array or object that is still open. -/
inductive Frame where
  /-- An array with its items so far, the last one first. -/
  | array (items : List Json)
  /-- An object with its entries so far and, once it has been read, the key of the next one. -/
  | object (entries : Entries Json) (key : Option String)

/-- What may come next. -/
inductive Expectation where
  | value
  /-- The first item of an array, or its end. -/
  | firstItem
  /-- The first key of an object, or its end. -/
  | firstKey
  | key
  | colon
  /-- A comma, or the end of the innermost array or object. -/
  | separator
deriving DecidableEq

/-- Between two tokens. -/
inductive Progress where
  | reading (frames : List Frame) (expectation : Expectation)
  | done (value : Json)

/-- How a text is read. -/
structure Mode where
  /-- How deep arrays and objects may nest, if there is a limit. -/
  depthLimit : Option Nat
  /-- The value of a scalar. -/
  scalar : Scalar → Except Fault Json

/-- Values are wanted, nested at most this deep. -/
def Mode.strict (depthLimit : Option Nat) : Mode :=
  { depthLimit, scalar := Scalar.value }

/-- The text only has to have the shape of a value. -/
def Mode.skipping : Mode :=
  { depthLimit := none
    scalar := fun s => match s.skipFault with
      | some fault => .error fault
      | none => .ok (if s.isString then .string "" else .null) }

/-- A value is complete: it is the whole text, or an item or entry of the innermost frame. -/
def complete (value : Json) : List Frame → Progress
  | [] => .done value
  | .array items :: frames => .reading (.array (value :: items) :: frames) .separator
  | .object entries key :: frames =>
    .reading (.object (entries.insert (key.getD "") value) none :: frames) .separator

/-- Open an array or object, unless the limit is reached. -/
def descend (mode : Mode) (frames : List Frame) (frame : Frame) (next : Expectation) :
    Except Fault Progress :=
  if mode.depthLimit.all (frames.length < ·) then .ok (.reading (frame :: frames) next)
  else .error .malformed

/-- A token where a value is expected. -/
def valueStep (mode : Mode) (frames : List Frame) : Token → Except Fault Progress
  | .openArray => descend mode frames (.array []) .firstItem
  | .openObject => descend mode frames (.object [] none) .firstKey
  | .scalar s => (complete · frames) <$> mode.scalar s
  | _ => .error .malformed

/-- A token where a key is expected. -/
def keyStep (mode : Mode) (entries : Entries Json) (frames : List Frame) :
    Token → Except Fault Progress
  | .scalar s =>
    if s.isString then
      (fun value => .reading (.object entries value.string? :: frames) .colon) <$> mode.scalar s
    else .error .malformed
  | _ => .error .malformed

/-- Take one token. -/
def step (mode : Mode) : Progress → Token → Except Fault Progress
  | .done _, _ => .error .malformed
  | .reading frames .value, token => valueStep mode frames token
  | .reading (.array _ :: frames) .firstItem, .closeArray => .ok (complete (.array []) frames)
  | .reading frames .firstItem, token => valueStep mode frames token
  | .reading (.object entries _ :: frames) .firstKey, .closeObject =>
    .ok (complete (.object entries) frames)
  | .reading (.object entries _ :: frames) .firstKey, token => keyStep mode entries frames token
  | .reading (.object entries _ :: frames) .key, token => keyStep mode entries frames token
  | .reading frames .colon, .colon => .ok (.reading frames .value)
  | .reading (.array items :: frames) .separator, .comma =>
    .ok (.reading (.array items :: frames) .value)
  | .reading (.array items :: frames) .separator, .closeArray =>
    .ok (complete (.array items.reverse) frames)
  | .reading (.object entries key :: frames) .separator, .comma =>
    .ok (.reading (.object entries key :: frames) .key)
  | .reading (.object entries _ :: frames) .separator, .closeObject =>
    .ok (complete (.object entries) frames)
  | .reading _ _, _ => .error .malformed

/-- The machine before the first token of a value. -/
def Progress.start : Progress :=
  .reading [] .value

/-- The value that the tokens spell, all of them and nothing more. -/
def ofTokens (mode : Mode) (tokens : List Token) : Except Fault Json := do
  match ← tokens.foldlM (step mode) .start with
  | .done value => .ok value
  | .reading _ _ => .error .truncated

/-- Arrays and objects nest at most this deep. -/
def depthLimit : Nat := 127

/-- The value of a text. -/
def ofText (text : String) : Except Fault Json :=
  ofTokens (.strict (some depthLimit)) (tokens text.toList)

end Json

end Bindery
