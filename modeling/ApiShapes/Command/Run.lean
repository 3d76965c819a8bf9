import ApiShapes.Command.Request
import ApiShapes.Output

/-!
# Running the program

A run answers its arguments with an exit code and what it prints.  The code is 2 when the arguments
are not understood, 1 when the work ends with an error, and else 0.
-/

namespace ApiShapes.Command

/-- What a run of the program leaves to be seen besides the files. -/
structure Report where
  code : UInt8
  output : String
  errorOutput : String
  deriving Repr, DecidableEq

/-- The answer to a request for the version. -/
def versionText : String := "api-dto-gen 0.1.0\n"

/-- The answer to a request for help. -/
def helpText : String :=
  String.join
    ["Usage: api-dto-gen [OPTIONS] <COMMAND>\n\n",
      "Commands:\n",
      "  generate  Remove the output directory and regenerate every DTO\n",
      "  clear     Remove the output directory\n\n",
      "Options:\n",
      "  -s, --schema <FILE>      JSON schema document describing the API\n",
      "      --base-dir <DIR>     Directory that relative output paths are resolved against\n",
      "  -o, --output <DIR>       Output directory, relative to the base directory\n",
      "  -n, --namespace <NAME>   Root namespace of the generated classes\n",
      "  -v, --verbose            Increase verbosity\n",
      "  -h, --help               Print help\n",
      "  -V, --version            Print version\n"]

/-- The settings of an invocation; an output directory that is not safe to remove is refused. -/
def Invocation.settings (invocation : Invocation) (base : Path) : Except Error Settings :=
  match Settings.outputDirBelow? base invocation.output with
  | some outputDir => .ok { Settings.standard with outputDir, ns := invocation.ns }
  | none => .error (.unsafeOutputDir (base.join invocation.output))

variable {m : Type → Type} [Monad m] [Workspace m]

/-- The directory that the output directory lies below. -/
def Invocation.base (invocation : Invocation) : ExceptT Error m Path :=
  match invocation.baseDir with
  | some dir => pure dir
  | none => .mk do return (← Workspace.currentDir).mapError .environment

/-- Generates the files for a schema; says how many. -/
def generateTask (schema : Path) (settings : Settings) (base : Path) :
    ExceptT Error m String := do
  let written ← Output.generateFor schema settings base
  pure ("Generated " ++ toString written.length ++ " files\n")

/-- Removes the output directory that the settings, or those for a schema, name. -/
def clearTask (schema : Option Path) (settings : Settings) (base : Path) :
    ExceptT Error m String := do
  let settings ←
    match schema with
    | some path => do
        let schema ← Schema.ofFile path
        settings.forSchema schema base
    | none => pure settings
  Output.clear settings
  pure ""

/-- Carries out an invocation; gives what is printed. -/
def Invocation.run (invocation : Invocation) : ExceptT Error m String := do
  let base ← invocation.base
  let settings ← invocation.settings base
  match invocation.task with
  | .generate schema => generateTask schema settings base
  | .clear schema => clearTask schema settings base

/-- Answers the arguments of the program. -/
def program (args : List String) : m Report := do
  match Request.ofArgs args with
  | .error fault => pure ⟨2, "", "error: " ++ fault.message ++ "\n"⟩
  | .ok .version => pure ⟨0, versionText, ""⟩
  | .ok .help => pure ⟨0, helpText, ""⟩
  | .ok (.invoke invocation) =>
      match ← invocation.run.run with
      | .ok output => pure ⟨0, output, ""⟩
      | .error error => pure ⟨1, "", "Error: " ++ error.message ++ "\n"⟩

end ApiShapes.Command
