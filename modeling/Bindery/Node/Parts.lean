import Bindery.Json.Reader
import Bindery.Node.Record
import Bindery.Style.Bag

/-!
# Persisted nodes

A node is written as an object: its tag under `$type`, then its attributes, then its styles under
`$styles`.  Both families of trees share this form.  What they differ in is gathered in a
`NodeFamily`, and a node of either is taken apart into its `Parts` for writing and put together from
them after reading.

An object is recognised as a node by its tag alone.  Whatever else it holds is read over the initial
attributes of its kind, and anything under a key that names no attribute is passed over.

* `NodeFamily.encode`: the object of a node.
* `NodeFamily.load`: the node after reading an object over it.
* `NodeFamily.read`: the node that an object is, if it is recognised.
* `Reading.of`: the reading of a whole value, from the inside out.
* `requireRoot`: the root of a tree, which has to be recognised.
-/

namespace Bindery

/-- The key of the tag of a node. -/
def typeKey : String := "$type"

/-- The key of the styles of a node. -/
def styleKey : String := "$styles"

/-- A family of trees as far as its persisted form goes. -/
structure NodeFamily where
  family : Family
  registry : Registry NodeKind
  typeName : NodeKind → String
  /-- The attributes that every node has. -/
  shared : Schema
  /-- The attributes of a kind of node. -/
  own : NodeKind → Schema
  initialShared : (ν : Type) → Record ν shared
  initialOwn : (ν : Type) → (kind : NodeKind) → Record ν (own kind)
  /-- The styles that are written for a node of a kind with these styles. -/
  writtenStyles : NodeKind → List Style → List Style

/-- A node taken apart. -/
structure Parts (family : NodeFamily) (ν : Type) where
  kind : NodeKind
  styles : List Style
  shared : Record ν family.shared
  own : Record ν (family.own kind)

/-- The tag in the entries of an object. -/
def typeTag? {ν : Type} (entries : Entries (Reading ν)) : Option String :=
  (entries.find? typeKey).bind fun reading => reading.value.string?

namespace NodeFamily

variable {ν : Type}

/-- The tag of a kind of node. -/
def tag (family : NodeFamily) (kind : NodeKind) : String :=
  family.family.tag (family.typeName kind)

/-- The object of a node whose own nodes have been written. -/
def encode (family : NodeFamily) (parts : Parts family Json) : Json :=
  let styles := family.writtenStyles parts.kind parts.styles
  .object ((typeKey, .string (family.tag parts.kind)) ::
    Record.encode family.shared parts.shared ++
    Record.encode (family.own parts.kind) parts.own ++
    (if styles.isEmpty then [] else [(styleKey, Style.encodeBag styles)]))

/-- A node of a kind that nothing has been said about. -/
def initial (family : NodeFamily) (ν : Type) (kind : NodeKind) : Parts family ν :=
  ⟨kind, [], family.initialShared ν, family.initialOwn ν kind⟩

/-- The styles after reading an object over them: those of its bag, if it has one. -/
def loadStyles (owner : String) (entries : Entries (Reading ν)) (styles : List Style) :
    Except Fault (List Style) :=
  match entries.find? styleKey with
  | some ⟨.object bag, _, _⟩ => Style.decodeBag owner bag
  | _ => .ok styles

/-- A node after reading an object over it.  The styles are read first, then the attributes in the
order in which they are written. -/
def load (family : NodeFamily) (parts : Parts family ν) (entries : Entries (Reading ν)) :
    Except Fault (Parts family ν) := do
  let owner := family.typeName parts.kind
  let styles ← loadStyles owner entries parts.styles
  let shared ← Record.load owner entries family.shared parts.shared
  let own ← Record.load owner entries (family.own parts.kind) parts.own
  .ok ⟨parts.kind, styles, shared, own⟩

/-- The node that an object is, if its tag is known. -/
def read (family : NodeFamily) (entries : Entries (Reading ν)) :
    Except Fault (Option (Parts family ν)) :=
  match (typeTag? entries).bind family.registry.resolve? with
  | none => .ok none
  | some kind => some <$> family.load (family.initial ν kind) entries

/-- Equality of two nodes, where styles and nodes are compared in the given senses. -/
def agree {μ : Type} (family : NodeFamily) (sameStyles : Parts family ν → Parts family μ → Bool)
    (same : ν → μ → Bool) (a : Parts family ν) (b : Parts family μ) : Bool :=
  if h : b.kind = a.kind then
    Record.agree same family.shared a.shared b.shared &&
      Record.agree same (family.own a.kind) a.own (h ▸ b.own) && sameStyles a b
  else false

end NodeFamily

namespace Reading

variable {ν : Type}

mutual

/-- The reading of a value, where `node` says which node the entries of an object make. -/
def of (node : Entries (Reading ν) → Except Fault (Option ν)) : Json → Reading ν
  | .null => ⟨.null, .ok none, none⟩
  | .bool b => ⟨.bool b, .ok none, none⟩
  | .number n => ⟨.number n, .ok none, none⟩
  | .string s => ⟨.string s, .ok none, none⟩
  | .array items => ⟨.array items, .ok none, some (ofItems node items)⟩
  | .object entries => ⟨.object entries, node (ofEntries node entries), none⟩

/-- The items of an array as nodes. -/
def ofItems (node : Entries (Reading ν) → Except Fault (Option ν)) :
    List Json → List (Except Fault (Option ν))
  | [] => []
  | item :: items => (of node item).node :: ofItems node items

/-- The readings of the entries of an object. -/
def ofEntries (node : Entries (Reading ν) → Except Fault (Option ν)) :
    List (String × Json) → Entries (Reading ν)
  | [] => []
  | (key, value) :: entries => (key, of node value) :: ofEntries node entries

end

end Reading

/-! ## Roots -/

/-- The tag of a value that is to be the root of a tree, empty if it has none. -/
def rootTag (value : Json) : String :=
  ((value.object?.bind fun entries => entries.find? typeKey).bind Json.string?).getD ""

/-- The root of a tree.  A value that is not recognised as a node is a fault here, and only here:
further down it is passed over. -/
def requireRoot {ν : Type} (value : Json) : Except Fault (Option ν) → Except Fault ν
  | .ok (some node) => .ok node
  | .ok none => .error (.unknownType (rootTag value))
  | .error fault => .error fault

/-- The value of a text. -/
def readText (text : String) : Except Fault Json :=
  match Json.ofText text with
  | .ok value => .ok value
  | .error fault => .error (.text fault)

end Bindery
