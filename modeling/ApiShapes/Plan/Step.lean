import ApiShapes.Artifact
import ApiShapes.Error

/-!
# Steps of a plan

Work on a plan is written down as a sequence of steps: a class name is reserved, a class is emitted,
or a node of the schema is rejected.  `perform` carries the steps out one after the other and stops
at the first that fails, be it a name that is taken or a node that is rejected.
-/

namespace ApiShapes

/-- A step of the work on a plan. -/
inductive Step where
  | reserve (ns className : String) (pointer : Pointer)
  | emit (artifact : Artifact)
  | reject (pointer : Pointer) (problem : SchemaProblem)
  deriving Repr, DecidableEq

namespace Plan

/-- Whether a class of the namespace has the name already. -/
def isTaken (planned : List Artifact) (ns className : String) : Bool :=
  planned.any fun artifact => artifact.ns = ns ∧ artifact.name = className

/--
Carries out the steps behind what is planned already.  The classes planned before the first failing
step stay planned, and its error comes with them.
-/
def perform (planned : List Artifact) : List Step → List Artifact × Option Error
  | [] => (planned, none)
  | .reserve ns className pointer :: steps =>
      if isTaken planned ns className then
        (planned, some (.atPointer pointer (.duplicateClass ns className)))
      else
        perform planned steps
  | .emit artifact :: steps => perform (planned ++ [artifact]) steps
  | .reject pointer problem :: _ => (planned, some (.atPointer pointer problem))

/-- The outcome of steps that shall have the result `result`. -/
def outcome {α : Type} (result : α) (planned : List Artifact) (steps : List Step) :
    List Artifact × Except Error α :=
  match perform planned steps with
  | (artifacts, none) => (artifacts, .ok result)
  | (artifacts, some error) => (artifacts, .error error)

end Plan

end ApiShapes
