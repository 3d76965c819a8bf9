import ApiShapes.Artifact
import ApiShapes.Error

/-!
# What the entries of a schema mean

An entry of a shape describes one field.  A scalar is a field with that default; a map with a `type`
spells the field out; a map with an entry `0`, or a list, describes the elements of a collection;
any other map describes a nested shape.  `Content` is the result of reading an entry.  A node that
cannot be read stays in the tree as `malformed`, so that reading always succeeds and the first fault
in the order of the schema can be reported.
-/

namespace ApiShapes

/--
What an entry describes: a value with its type, a nested shape, a collection of shapes, or nothing
that can be understood.  The place of a fault is given from the node of the entry on.
-/
inductive Content where
  | value (type : String) (default : Option Literal) (required : Option Bool)
  | shape (fields : List (String × Content))
  | collection (fields : List (String × Content))
  | malformed (place : List String) (problem : SchemaProblem)
  deriving Repr

/-- The fields of a shape by key, in the order of the schema. -/
abbrev Fields := List (String × Content)

/-- A scalar node as a default value; null is none. -/
def Literal.ofNode? : Node → Option Literal
  | .bool b => some (.bool b)
  | .integer i => some (.integer i)
  | .float x => some (.float x)
  | .string s => some (.string s)
  | _ => none

namespace Content

/-- The key under which a map describes the elements of a collection. -/
def elementKey : String := "0"

/-- The type that a scalar stands for. -/
def inferredType : Node → String
  | .bool _ => "bool"
  | .integer _ => "int"
  | .float _ => "float"
  | .string _ => "string"
  | _ => "null"

/-- A field whose type and default come from a scalar. -/
def ofScalar (node : Node) : Content :=
  .value (inferredType node) (Literal.ofNode? node) none

/-- The type that is spelled out. -/
def explicitType (node : Node) : Except Content String :=
  match node with
  | .string s => .ok s
  | other => .error (.malformed ["type"] (.typeNotString other.kind))

/-- The default that is spelled out. -/
def explicitDefault (entries : Entries) : Except Content (Option Literal) :=
  match entries.lookup "default" with
  | none => .ok none
  | some .null => .ok none
  | some node =>
      match Literal.ofNode? node with
      | some literal => .ok (some literal)
      | none => .error (.malformed ["default"] (.defaultNotScalar node.kind))

/-- Whether it is spelled out that the field is required. -/
def explicitRequired (entries : Entries) : Except Content (Option Bool) :=
  match entries.lookup "required" with
  | none => .ok none
  | some .null => .ok none
  | some (.bool b) => .ok (some b)
  | some other => .error (.malformed ["required"] (.requiredNotBoolean other.kind))

/-- A field that is spelled out, with the node of its type. -/
def ofExplicit (type : Node) (entries : Entries) : Content :=
  match explicitType type, explicitDefault entries, explicitRequired entries with
  | .ok type, .ok default, .ok required => .value type default required
  | .error fault, _, _ => fault
  | _, .error fault, _ => fault
  | _, _, .error fault => fault

mutual

/-- What the node of an entry describes. -/
def ofNode : Node → Content
  | .map entries =>
      match (Node.map entries).present? "type" with
      | some type => ofExplicit type entries
      | none => (ofPositional entries).getD (.shape (ofEntries entries))
  | .list [] => .shape []
  | .list (element :: _) => ofElement element
  | scalar => ofScalar scalar

/-- What the entry `0` of a map describes, if the map has one that is not null. -/
def ofPositional : Entries → Option Content
  | [] => none
  | (key, node) :: entries =>
      if key = elementKey then
        if node.isNull then none else some (ofElement node)
      else
        ofPositional entries

/-- The collection whose elements a node describes. -/
def ofElement : Node → Content
  | .map entries => .collection (ofEntries entries)
  | other => .malformed [elementKey] (.elementNotMap other.kind)

/-- What the entries of a shape describe. -/
def ofEntries : Entries → Fields
  | [] => []
  | (key, node) :: entries => (key, ofNode node) :: ofEntries entries

end

end Content

end ApiShapes
