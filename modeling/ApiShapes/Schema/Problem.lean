import ApiShapes.Schema.Node
import ApiShapes.Text.Quoted

/-!
# Problems of a schema

What is wrong with a node of a schema, given by its cause and by what was found in its place.
-/

namespace ApiShapes

/-- What is wrong with a node of a schema. -/
inductive SchemaProblem where
  | rootNotObject
  | settingsMismatch (found expected : String)
  | settingsLength (count : Nat)
  | unsafePath (path : String)
  | notMap (found : Kind)
  | elementNotMap (found : Kind)
  | typeNotString (found : Kind)
  | defaultNotScalar (found : Kind)
  | requiredNotBoolean (found : Kind)
  | duplicateClass (ns className : String)
  | other (text : String)
  deriving Repr, DecidableEq

/-- The wording of a problem of a schema. -/
def SchemaProblem.message : SchemaProblem → String
  | rootNotObject => "schema root must be an object"
  | settingsMismatch found expected => "invalid type: " ++ found ++ ", expected " ++ expected
  | settingsLength count =>
      "invalid length " ++ toString count ++ ", expected fewer elements in array"
  | unsafePath path =>
      "output path " ++ Text.quoted path ++ " must name a directory below the base directory"
  | notMap found => "expected a map, found " ++ found.name
  | elementNotMap found => "collection element must be a map of properties, found " ++ found.name
  | typeNotString found => "type must be a string, found " ++ found.name
  | defaultNotScalar found => "default must be a scalar, found " ++ found.name
  | requiredNotBoolean found => "required must be a boolean, found " ++ found.name
  | duplicateClass ns className => "duplicate shape name " ++ ns ++ "\\" ++ className
  | other text => text

end ApiShapes
