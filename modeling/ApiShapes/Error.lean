import ApiShapes.Json.Fault
import ApiShapes.Path
import ApiShapes.Pointer
import ApiShapes.Schema.Problem
import ApiShapes.Storage.Fault

/-!
# Errors

What can go wrong between a schema text and the generated files: the text is no JSON, a node of the
schema cannot be read or two classes share their name, the output directory would not be safe to
remove, or the storage refuses an operation.  Every error is given by its cause; `Error.message` is
the wording.
-/

namespace ApiShapes

/-- What can go wrong.  A place in a schema is given by the text of a pointer. -/
inductive Error where
  | environment (fault : StorageFault)
  | json (error : JsonError)
  | invalidSchema (place : String) (problem : SchemaProblem)
  | unsafeOutputDir (path : Path)
  | storage (path : Path) (fault : StorageFault)
  deriving Repr, DecidableEq

namespace Error

/-- An error at the node of a pointer. -/
def atPointer (pointer : Pointer) (problem : SchemaProblem) : Error :=
  invalidSchema pointer.text problem

/-- The wording of an error; the root of the schema is shown as a slash. -/
def message : Error → String
  | environment fault => fault.message
  | json error => error.message
  | invalidSchema place problem =>
      "invalid schema at " ++ (if place = "" then "/" else place) ++ ": " ++ problem.message
  | unsafeOutputDir path =>
      "refusing to use " ++ path.text ++
        " as output directory: it must be below the base directory"
  | storage path fault => path.text ++ ": " ++ fault.message

/-- The wording of the error that lies behind an error. -/
def cause? : Error → Option String
  | environment fault => some fault.message
  | json error => some error.message
  | invalidSchema _ _ => none
  | unsafeOutputDir _ => none
  | storage _ fault => some fault.message

end Error

end ApiShapes
