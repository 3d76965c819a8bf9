import ApiShapes.Binary64
import ApiShapes.Path

/-!
# What is generated

Every generated file holds one class: a shape, which has one property for each field, or a
collection, which wraps a list of one shape.
-/

namespace ApiShapes

/-- The default value of a property. -/
inductive Literal where
  | bool (b : Bool)
  | integer (i : Int64)
  | float (x : Binary64)
  | string (s : String)
  deriving Repr, DecidableEq

/-- A public property of a shape.  Its type is a primitive one or the reference to a class. -/
structure Property where
  name : String
  type : String
  default : Option Literal
  required : Option Bool
  deriving Repr, DecidableEq

/-- Whether a property is listed as excluded: only if it is said not to be required. -/
def Property.isExcluded (property : Property) : Bool :=
  property.required == some false

/-- Puts a property in the place of the one with its name, or else at the end. -/
def Property.insert (property : Property) : List Property → List Property
  | [] => [property]
  | first :: others =>
      if first.name = property.name then property :: others
      else first :: property.insert others

/-- A class with properties, in a namespace and in a directory below the output directory. -/
structure Shape where
  name : String
  ns : String
  dir : Path
  properties : List Property
  deriving Repr, DecidableEq

/-- A class that wraps a list of elements of one class. -/
structure Collection where
  name : String
  element : String
  ns : String
  dir : Path
  deriving Repr, DecidableEq

/-- A generated class. -/
inductive Artifact where
  | shape (shape : Shape)
  | collection (collection : Collection)
  deriving Repr, DecidableEq

namespace Artifact

/-- The class name. -/
def name : Artifact → String
  | shape s => s.name
  | collection c => c.name

/-- The namespace of the class. -/
def ns : Artifact → String
  | shape s => s.ns
  | collection c => c.ns

/-- The directory of the file, below the output directory. -/
def dir : Artifact → Path
  | shape s => s.dir
  | collection c => c.dir

/-- The path of the file, below the output directory. -/
def relativePath (artifact : Artifact) (extension : String) : Path :=
  artifact.dir.join ⟨artifact.name ++ "." ++ extension⟩

end Artifact

end ApiShapes
