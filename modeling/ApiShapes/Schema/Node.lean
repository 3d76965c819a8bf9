import ApiShapes.Json.Value

/-!
# Nodes of a schema

A schema is a tree of nodes.  A leaf is tagged with its kind, so that an integer and a
floating-point number are never confused, and a map keeps the order of its entries.  A key may occur
more than once in a map; looking it up finds its first entry.
-/

namespace ApiShapes

/-- A node of a schema. -/
inductive Node where
  | null
  | bool (b : Bool)
  | integer (i : Int64)
  | float (x : Binary64)
  | string (s : String)
  | list (items : List Node)
  | map (entries : List (String × Node))
  deriving Repr

/-- The entries of a map node, in order. -/
abbrev Entries := List (String × Node)

/-- The kinds of nodes. -/
inductive Kind where
  | null
  | boolean
  | integer
  | float
  | string
  | list
  | map
  deriving Repr, DecidableEq

/-- The name of a kind in messages. -/
def Kind.name : Kind → String
  | null => "null"
  | boolean => "boolean"
  | integer => "integer"
  | float => "float"
  | string => "string"
  | list => "list"
  | map => "map"

namespace Node

/-- The kind of a node. -/
def kind : Node → Kind
  | null => .null
  | bool _ => .boolean
  | integer _ => .integer
  | float _ => .float
  | string _ => .string
  | list _ => .list
  | map _ => .map

/-- Whether a node is null. -/
def isNull : Node → Bool
  | null => true
  | _ => false

/-- The node at the first entry of a key, in a map. -/
def get? (node : Node) (key : String) : Option Node :=
  match node with
  | map entries => entries.lookup key
  | _ => none

/-- The node at the first entry of a key, unless it is null. -/
def present? (node : Node) (key : String) : Option Node :=
  (node.get? key).filter fun found => !found.isNull

/-- A number becomes an integer when it has 64 bits with a sign, else a floating-point number. -/
def ofNumber : Json.Number → Node
  | .natural n =>
      if n.toNat < Json.signedBound then integer (.ofNat n.toNat) else float (.ofNat n.toNat)
  | .negative i => integer i
  | .real x => float x

mutual

/-- The node of a JSON value. -/
def ofJson : Json.Value → Node
  | .null => null
  | .bool b => bool b
  | .number n => ofNumber n
  | .string s => string s
  | .array items => list (ofItems items)
  | .object entries => map (ofEntries entries)

/-- The nodes of the items of a JSON array. -/
def ofItems : List Json.Value → List Node
  | [] => []
  | item :: items => ofJson item :: ofItems items

/-- The nodes of the entries of a JSON object. -/
def ofEntries : List (String × Json.Value) → Entries
  | [] => []
  | (key, value) :: entries => (key, ofJson value) :: ofEntries entries

end

end Node

end ApiShapes
