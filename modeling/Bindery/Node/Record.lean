import Bindery.Attribute.Scalar
import Bindery.Fault

/-!
# Attribute records

Every kind of node lists its attributes once, as a schema: a name and a type for each, where the
type is that of a scalar, of a single node or of a list of nodes.  A record holds the values for a
schema.  Writing, reading and comparing are defined on schemas, so that one listing drives all
three.

The type `ν` of the nodes in a record is a parameter.  Writing works on records whose nodes are
already written, and reading on entries whose values have already been read as nodes
(`Reading`), which is how both recurse through a tree.
-/

namespace Bindery

/-- The type of an attribute. -/
inductive AttributeType where
  | scalar (type : Scalar)
  | node
  | nodes
deriving DecidableEq, Repr

/-- The attributes of a kind of node, in the order in which they are written. -/
abbrev Schema := List (String × AttributeType)

/-- The values of an attribute, in a tree of nodes `ν`. -/
@[reducible] def AttributeType.Value (ν : Type) : AttributeType → Type
  | scalar s => s.Value
  | node => Option ν
  | nodes => List ν

/-- The values of the attributes of a schema. -/
@[reducible] def Record (ν : Type) : Schema → Type
  | [] => Unit
  | (_, type) :: schema => type.Value ν × Record ν schema

/-! ## Writing -/

/-- An attribute as it is written.  An absent value, an absent node and an empty list are not. -/
def AttributeType.encode? : (type : AttributeType) → type.Value Json → Option Json
  | scalar s, value => match s.encode value with
    | .null => none
    | encoded => some encoded
  | node, written => written
  | nodes, written => if written.isEmpty then none else some (.array written)

/-- The attributes of a record that are written, in the order of the schema. -/
def Record.encode : (schema : Schema) → Record Json schema → Entries Json
  | [], _ => []
  | (name, type) :: schema, (value, record) =>
    match type.encode? value with
    | none => Record.encode schema record
    | some encoded => (name, encoded) :: Record.encode schema record

/-! ## Reading -/

/-- A JSON value together with what it is as a node and, if it is an array, what its items are. -/
structure Reading (ν : Type) where
  value : Json
  node : Except Fault (Option ν)
  items : Option (List (Except Fault (Option ν)))

/-- The nodes among some items.  Items that are no nodes are passed over, and the first fault is
reported. -/
def nodesOf {ν : Type} : List (Except Fault (Option ν)) → Except Fault (List ν)
  | [] => .ok []
  | .error fault :: _ => .error fault
  | .ok none :: items => nodesOf items
  | .ok (some node) :: items => (node :: ·) <$> nodesOf items

/-- The value of an attribute after reading it.  A scalar must have the right shape; a value that is
no node, or no array of nodes, leaves the attribute as it is. -/
def AttributeType.load {ν : Type} (owner name : String) :
    (type : AttributeType) → type.Value ν → Reading ν → Except Fault (type.Value ν)
  | scalar s, _, reading => match s.decode reading.value with
    | .ok value => .ok value
    | .error reason => .error (.wrongAttribute owner name s.typeName reason)
  | node, old, reading => match reading.node with
    | .ok (some found) => .ok (some found)
    | .ok none => .ok old
    | .error fault => .error fault
  | nodes, old, reading => match reading.items with
    | some items => nodesOf items
    | none => .ok old

/-- A record after reading the entries of an object over it, in the order of the schema.  An
attribute without an entry keeps its value.  `owner` is the type name of the node. -/
def Record.load {ν : Type} (owner : String) (entries : Entries (Reading ν)) :
    (schema : Schema) → Record ν schema → Except Fault (Record ν schema)
  | [], _ => .ok ()
  | (name, type) :: schema, (old, record) => do
    let value ← match entries.find? name with
      | some reading => type.load owner name old reading
      | none => .ok old
    let record ← Record.load owner entries schema record
    .ok (value, record)

/-! ## Comparing -/

/-- Equality of two attributes, where nodes are compared in the given sense. -/
def AttributeType.agree {ν μ : Type} (same : ν → μ → Bool) :
    (type : AttributeType) → type.Value ν → type.Value μ → Bool
  | scalar s => s.agree
  | node => Scalar.agreeOption same
  | nodes => Scalar.agreeItems same

/-- Equality of two records, where nodes are compared in the given sense. -/
def Record.agree {ν μ : Type} (same : ν → μ → Bool) :
    (schema : Schema) → Record ν schema → Record μ schema → Bool
  | [], _, _ => true
  | (_, type) :: schema, (a, as), (b, bs) => type.agree same a b && Record.agree same schema as bs

end Bindery
