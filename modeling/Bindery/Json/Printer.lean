import Bindery.Json.Basic

/-!
# JSON text

Two layouts of a value: `Json.compact` on one line without blanks, and `Json.pretty` with one item
or entry a line and two blanks of indent per level.  Both write a string with the short escapes
where there is one, other control characters by their code, and everything else as it is.
-/

namespace Bindery

namespace Json

/-- The characters that stand for one character inside quotes. -/
def escape (c : Char) : List Char :=
  if c = '"' then ['\\', '"']
  else if c = '\\' then ['\\', '\\']
  else if c = '\x08' then ['\\', 'b']
  else if c = '\x0c' then ['\\', 'f']
  else if c = '\n' then ['\\', 'n']
  else if c = '\r' then ['\\', 'r']
  else if c = '\t' then ['\\', 't']
  else if c < ' ' then
    ['\\', 'u', '0', '0', Nat.digitChar (c.toNat / 16), Nat.digitChar (c.toNat % 16)]
  else [c]

/-- A string in quotes. -/
def quote (s : String) : String :=
  String.ofList ('"' :: s.toList.flatMap escape ++ ['"'])

mutual

/-- A value on one line. -/
def compact : Json → String
  | null => "null"
  | bool true => "true"
  | bool false => "false"
  | number n => n.text
  | string s => quote s
  | array items => "[" ++ String.intercalate "," (compactItems items) ++ "]"
  | object entries => "\x7b" ++ String.intercalate "," (compactEntries entries) ++ "\x7d"

/-- The items of an array, each on one line. -/
def compactItems : List Json → List String
  | [] => []
  | item :: items => compact item :: compactItems items

/-- The entries of an object, each on one line. -/
def compactEntries : List (String × Json) → List String
  | [] => []
  | (key, value) :: entries => (quote key ++ ":" ++ compact value) :: compactEntries entries

end

/-- A new line at this level of nesting. -/
def newLine (level : Nat) : String :=
  String.ofList ('\n' :: List.replicate (2 * level) ' ')

/-- Parts between brackets, one a line; without parts only the brackets. -/
def block (level : Nat) (opening closing : String) (parts : List String) : String :=
  if parts.isEmpty then opening ++ closing
  else
    opening ++ newLine (level + 1) ++ String.intercalate ("," ++ newLine (level + 1)) parts ++
      newLine level ++ closing

mutual

/-- A value over several lines, at a level of nesting. -/
def prettyAt (level : Nat) : Json → String
  | null => "null"
  | bool true => "true"
  | bool false => "false"
  | number n => n.text
  | string s => quote s
  | array items => block level "[" "]" (prettyItems (level + 1) items)
  | object entries => block level "\x7b" "\x7d" (prettyEntries (level + 1) entries)

/-- The items of an array, at their own level. -/
def prettyItems (level : Nat) : List Json → List String
  | [] => []
  | item :: items => prettyAt level item :: prettyItems level items

/-- The entries of an object, at their own level. -/
def prettyEntries (level : Nat) : List (String × Json) → List String
  | [] => []
  | (key, value) :: entries =>
    (quote key ++ ": " ++ prettyAt level value) :: prettyEntries level entries

end

/-- A value over several lines. -/
def pretty (value : Json) : String :=
  prettyAt 0 value

end Json

end Bindery
