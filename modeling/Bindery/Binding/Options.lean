import Bindery.Fault
import Bindery.Json.Reader

/-!
# Options of binding

A document can be bound with or without numbered expressions and filled catalogs.  Options are
written as an object of two flags, of which either may be missing, or as an array of up to two flags
in their order; an object may have further entries, which count for nothing.

Options that come as a value are simply looked up.  Options that come as text are read by a machine
that takes one token at a time, because what is wrong first in the text is what is reported: a flag
of the wrong form as a mismatch, even if the text breaks off after it.  Entries that count for
nothing are handed to the machine that skips values.

* `Options.ofJson`: the options that a value describes.
* `Options.ofText`: the options that a text describes.
-/

namespace Bindery

/-- What is done with a document once it is bound. -/
structure Options where
  numberExpressions : Bool
  buildCatalog : Bool
deriving DecidableEq, Repr

namespace Options

/-- The options where nothing is said. -/
def standard : Options := ⟨true, true⟩

/-- The options, where those that are left open are as usual. -/
def ofFlags (numberExpressions buildCatalog : Option Bool) : Options :=
  ⟨numberExpressions.getD standard.numberExpressions, buildCatalog.getD standard.buildCatalog⟩

/-- The key of the flag for expressions. -/
def numberKey : String := "number_expressions"

/-- The key of the flag for catalogs. -/
def catalogKey : String := "build_catalog"

/-! ## Options as a value -/

/-- A flag. -/
def flagOfJson : Json → Except Json.Fault Bool
  | .bool flag => .ok flag
  | _ => .error .mismatch

/-- The flag under a key, if there is one. -/
def flagUnder (entries : Entries Json) (key : String) : Except Json.Fault (Option Bool) :=
  match entries.get? key with
  | some value => some <$> flagOfJson value
  | none => .ok none

/-- The options that a value describes. -/
def ofJson : Json → Except Json.Fault Options
  | .object entries => do
    let numberExpressions ← flagUnder entries numberKey
    let buildCatalog ← flagUnder entries catalogKey
    return ofFlags numberExpressions buildCatalog
  | .array items => do
    match ← items.mapM flagOfJson with
    | [] => return standard
    | [numberExpressions] => return ofFlags (some numberExpressions) none
    | [numberExpressions, buildCatalog] =>
      return ofFlags (some numberExpressions) (some buildCatalog)
    | _ => .error .mismatch
  | _ => .error .mismatch

/-! ## Options as text -/

/-- What an entry of an object is for. -/
inductive Field where
  | numberExpressions
  | buildCatalog
  | other
deriving DecidableEq, Repr

/-- What the entry under a key is for. -/
def Field.ofKey (key : String) : Field :=
  if key == numberKey then .numberExpressions
  else if key == catalogKey then .buildCatalog
  else .other

/-- The flags that have been read. -/
structure Found where
  numberExpressions : Option Bool
  buildCatalog : Option Bool
deriving DecidableEq, Repr

namespace Found

/-- No flag has been read. -/
def nothing : Found := ⟨none, none⟩

/-- Whether there is a flag for a field. -/
def has (found : Found) : Field → Bool
  | .numberExpressions => found.numberExpressions.isSome
  | .buildCatalog => found.buildCatalog.isSome
  | .other => false

/-- The flags with one more. -/
def put (found : Found) (flag : Bool) : Field → Found
  | .numberExpressions => { found with numberExpressions := some flag }
  | .buildCatalog => { found with buildCatalog := some flag }
  | .other => found

/-- The options that the flags make. -/
def options (found : Found) : Options :=
  ofFlags found.numberExpressions found.buildCatalog

end Found

/-- Between two tokens of a text with options. -/
inductive Progress where
  | start
  /-- In an array, before the flag of a field. -/
  | item (found : Found) (field : Field)
  /-- In an array, after the flag of a field. -/
  | afterItem (found : Found) (field : Field)
  /-- In an object, before its first key or its end. -/
  | firstKey
  /-- In an object, before a further key. -/
  | key (found : Found)
  | colon (found : Found) (field : Field)
  | value (found : Found) (field : Field)
  /-- In an entry that counts for nothing. -/
  | skipping (found : Found) (inner : Json.Progress)
  /-- In an object, after an entry. -/
  | afterEntry (found : Found)
  | done (options : Options)

/-- A token where a flag is expected.  Any other value is none, whatever follows. -/
def flagOfToken : Json.Token → Except Json.Fault Bool
  | .scalar scalar => scalar.value >>= flagOfJson
  | .openArray | .openObject => .error .mismatch
  | _ => .error .malformed

/-- A token where a key is expected.  A flag cannot be given twice. -/
def keyStep (found : Found) : Json.Token → Except Json.Fault Progress
  | .scalar scalar =>
    if scalar.isString then do
      let key ← scalar.value
      let field := Field.ofKey (key.string?.getD "")
      if found.has field then .error .mismatch else .ok (.colon found field)
    else .error .malformed
  | _ => .error .malformed

/-- A token of an entry that counts for nothing. -/
def skipStep (found : Found) (inner : Json.Progress) (token : Json.Token) :
    Except Json.Fault Progress := do
  match ← Json.step .skipping inner token with
  | .done _ => return .afterEntry found
  | inner => return .skipping found inner

/-- Take one token. -/
def step : Progress → Json.Token → Except Json.Fault Progress
  | .start, .openArray => .ok (.item .nothing .numberExpressions)
  | .start, .openObject => .ok .firstKey
  | .start, .scalar scalar => scalar.value >>= fun _ => .error .mismatch
  | .start, _ => .error .malformed
  | .item found .numberExpressions, .closeArray => .ok (.done found.options)
  | .item found field, token => (fun flag => .afterItem (found.put flag field) field) <$>
      flagOfToken token
  | .afterItem found _, .closeArray => .ok (.done found.options)
  | .afterItem found .numberExpressions, .comma => .ok (.item found .buildCatalog)
  | .afterItem _ _, _ => .error .malformed
  | .firstKey, .closeObject => .ok (.done standard)
  | .firstKey, token => keyStep .nothing token
  | .key found, token => keyStep found token
  | .colon found .other, .colon => .ok (.skipping found .start)
  | .colon found field, .colon => .ok (.value found field)
  | .colon _ _, _ => .error .malformed
  | .value found field, token => (fun flag => .afterEntry (found.put flag field)) <$>
      flagOfToken token
  | .skipping found inner, token => skipStep found inner token
  | .afterEntry found, .comma => .ok (.key found)
  | .afterEntry found, .closeObject => .ok (.done found.options)
  | .afterEntry _, _ => .error .malformed
  | .done _, _ => .error .malformed

/-- The options that a text describes, and nothing more. -/
def ofText (text : String) : Except Json.Fault Options := do
  match ← (Json.tokens text.toList).foldlM step .start with
  | .done options => return options
  | _ => .error .truncated

end Options

end Bindery
