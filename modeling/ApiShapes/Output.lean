import ApiShapes.Plan.Basic
import ApiShapes.Schema.File
import ApiShapes.Settings

/-!
# The output directory

The output directory belongs to the generated classes alone: it is removed, created again and filled
with one file for each class of the plan.  The plan is complete before anything is removed, so a
schema that cannot be read costs no earlier output.  A storage that refuses an operation ends the
work there, and what was written stays.
-/

namespace ApiShapes.Output

variable {m : Type → Type} [Monad m]

section

variable [Storage m]

/-- Removes the output directory, if there is one. -/
def clear (settings : Settings) : ExceptT Error m Unit := do
  if ← Storage.isDir (m := m) settings.outputDir then
    Storage.attempt settings.outputDir (Storage.removeDir settings.outputDir)

/-- Creates the output directory. -/
def prepare (settings : Settings) : ExceptT Error m Unit :=
  Storage.attempt settings.outputDir (Storage.createDirs settings.outputDir)

/-- The directory that the file of a class goes into. -/
def classDir (settings : Settings) (artifact : Artifact) : Path :=
  settings.outputDir.join artifact.dir

/-- The path of the file of a class. -/
def classPath (settings : Settings) (artifact : Artifact) : Path :=
  (classDir settings artifact).join ⟨artifact.name ++ "." ++ Php.fileExtension⟩

/-- Writes the file of a class, and its directory if that is missing; gives the path. -/
def writeClass (settings : Settings) (artifact : Artifact) : ExceptT Error m Path := do
  let dir := classDir settings artifact
  unless ← Storage.isDir (m := m) dir do
    Storage.attempt dir (Storage.createDirs dir)
  let path := classPath settings artifact
  Storage.attempt path (Storage.write path (settings.file artifact).toUTF8)
  pure path

/-- Writes the output anew for a schema; gives the paths of the files in the order of the plan. -/
def generate (settings : Settings) (schema : Schema) : ExceptT Error m (List Path) := do
  let artifacts ← Plan.ofSchema schema settings.ns
  clear settings
  prepare settings
  artifacts.mapM (writeClass settings)

end

/-- Writes the output anew for the schema in a file, with the settings that it asks for. -/
def generateFor [Workspace m] (path : Path) (settings : Settings) (base : Path) :
    ExceptT Error m (List Path) := do
  let schema ← Schema.ofFile path
  let settings ← settings.forSchema schema base
  generate settings schema

end ApiShapes.Output
