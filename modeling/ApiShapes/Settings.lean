import ApiShapes.Artifact
import ApiShapes.Php.ClassFile
import ApiShapes.Schema.Basic

/-!
# Settings

Where the classes are written, in which namespace, and which classes they extend.  The output
directory is removed before it is filled, so it must lie below the base directory: a schema or a
caller that names the base directory itself, a directory around it, or a way out of it is refused.
-/

namespace ApiShapes

/-- What is chosen for the output. -/
structure Settings where
  outputDir : Path
  ns : String
  shapeBase : String
  collectionBase : String
  deriving Repr, DecidableEq

namespace Settings

/--
The directory `output` below the base directory.  There is none when `output` has two dots or no
name in it, or when the base directory lies in it.
-/
def outputDirBelow? (base output : Path) : Option Path :=
  if .parent ∈ output.components then none
  else if !output.components.any (·.isNormal) then none
  else if base.startsWith (base.join output) then none
  else some (base.join output)

/-- The output directory where none is chosen. -/
def defaultOutputDir : Path := ⟨"src/Dto/Api"⟩

/-- The namespace where none is chosen. -/
def defaultNamespace : String := "App\\Dto\\Api"

/-- The settings where nothing is chosen. -/
def standard : Settings where
  outputDir := defaultOutputDir
  ns := defaultNamespace
  shapeBase := "Eva\\Common\\NestedDto"
  collectionBase := "Eva\\Common\\ObjectCollection"

/-- The standard settings below a base directory. -/
def standardIn (base : Path) : Settings :=
  { standard with outputDir := base.join defaultOutputDir }

/-- The pointer to the output directory that a schema asks for. -/
def pathPointer : Pointer := Schema.settingsPointer.child "path"

/-- Takes over the output directory that a schema asks for, relative to the base directory. -/
def withPath (settings : Settings) (base : Path) (path : String) : Except Error Settings :=
  match outputDirBelow? base ⟨Text.trimStart '/' path⟩ with
  | some outputDir => .ok { settings with outputDir }
  | none => .error (.atPointer pathPointer (.unsafePath path))

/-- Takes over what a schema asks for.  The namespace loses the backslashes at its ends. -/
def withSchema (settings : Settings) (asked : SchemaSettings) (base : Path) :
    Except Error Settings := do
  let settings ←
    match asked.path with
    | some path => settings.withPath base path
    | none => pure settings
  match asked.ns with
  | some ns => pure { settings with ns := Text.trimEnds '\\' ns }
  | none => pure settings

/-- The settings for a schema, which need not ask for anything. -/
def forSchema (settings : Settings) (schema : Schema) (base : Path) : Except Error Settings :=
  match schema.settings with
  | some asked => settings.withSchema asked base
  | none => pure settings

/-- The file of a class under the settings. -/
def file (settings : Settings) : Artifact → String
  | .shape shape => Php.shapeFile shape settings.shapeBase
  | .collection collection => Php.collectionFile collection settings.collectionBase

end Settings

end ApiShapes
