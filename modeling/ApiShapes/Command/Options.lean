import ApiShapes.Path
import ApiShapes.Text.Quoted

/-!
# The options of the program

Options with a value choose where and how to write, and flags ask for something at once.  An option
is known by a long name and perhaps by a letter; the schema belongs to a task, and the version can
only be asked for without one.
-/

namespace ApiShapes.Command

/-- The names of what the program can be asked to do with the output directory. -/
inductive TaskName where
  | generate
  | clear
  deriving Repr, DecidableEq

/-- A task with the file of the schema, which clearing can do without. -/
inductive Task where
  | generate (schema : Path)
  | clear (schema : Option Path)
  deriving Repr, DecidableEq

/-- The options that take a value. -/
inductive Setting where
  | schema
  | baseDir
  | output
  | ns
  deriving Repr, DecidableEq

/-- The options that take no value. -/
inductive Flag where
  | verbose
  | version
  | help
  deriving Repr, DecidableEq

/-- Why arguments are not understood. -/
inductive UsageFault where
  | unexpectedArgument (arg : String)
  | unexpectedValue (arg : String)
  | missingValue (setting : Setting)
  | repeatedSetting (setting : Setting)
  | missingSchema
  | missingTask
  deriving Repr, DecidableEq

/-- The values given on one side of the task. -/
structure Options where
  schema : Option Path
  baseDir : Option Path
  output : Option Path
  ns : Option String
  deriving Repr, DecidableEq

/-- The long name of an option with a value. -/
def Setting.name : Setting → String
  | schema => "schema"
  | baseDir => "base-dir"
  | output => "output"
  | ns => "namespace"

/-- Whether an option has the empty text as a value; a path must not be empty. -/
def Setting.allowsEmpty : Setting → Bool
  | ns => true
  | _ => false

/-- No values. -/
def Options.none : Options := ⟨.none, .none, .none, .none⟩

/-- Whether a value is given for an option. -/
def Options.has (options : Options) : Setting → Bool
  | .schema => options.schema.isSome
  | .baseDir => options.baseDir.isSome
  | .output => options.output.isSome
  | .ns => options.ns.isSome

/-- Gives a value for an option that has none yet. -/
def Options.set (options : Options) (setting : Setting) (value : String) :
    Except UsageFault Options :=
  if value = "" ∧ !setting.allowsEmpty then .error (.missingValue setting)
  else if options.has setting then .error (.repeatedSetting setting)
  else
    match setting with
    | .schema => .ok { options with schema := some ⟨value⟩ }
    | .baseDir => .ok { options with baseDir := some ⟨value⟩ }
    | .output => .ok { options with output := some ⟨value⟩ }
    | .ns => .ok { options with ns := some value }

/-- An option by its long name; the schema belongs to a task, the version to none. -/
def longOption? (task : Option TaskName) (name : String) : Option (Setting ⊕ Flag) :=
  match name with
  | "schema" => if task.isSome then some (.inl .schema) else none
  | "base-dir" => some (.inl .baseDir)
  | "output" => some (.inl .output)
  | "namespace" => some (.inl .ns)
  | "verbose" => some (.inr .verbose)
  | "version" => if task.isSome then none else some (.inr .version)
  | "help" => some (.inr .help)
  | _ => none

/-- An option by its letter. -/
def shortOption? (task : Option TaskName) (letter : Char) : Option (Setting ⊕ Flag) :=
  match letter with
  | 's' => if task.isSome then some (.inl .schema) else none
  | 'o' => some (.inl .output)
  | 'n' => some (.inl .ns)
  | 'v' => some (.inr .verbose)
  | 'V' => if task.isSome then none else some (.inr .version)
  | 'h' => some (.inr .help)
  | _ => none

/-- A task by its name. -/
def task? (name : String) : Option TaskName :=
  match name with
  | "generate" => some .generate
  | "clear" => some .clear
  | _ => none

/-- The task with the values given for it. -/
def Options.task (options : Options) : TaskName → Except UsageFault Task
  | .generate =>
      match options.schema with
      | some schema => .ok (.generate schema)
      | .none => .error .missingSchema
  | .clear => .ok (.clear options.schema)

/-- The wording of a fault in the arguments. -/
def UsageFault.message : UsageFault → String
  | unexpectedArgument arg => "unexpected argument " ++ Text.quoted arg
  | unexpectedValue arg => "unexpected value for --" ++ arg
  | missingValue setting => "a value is required for --" ++ setting.name
  | repeatedSetting setting => "--" ++ setting.name ++ " cannot be used more than once"
  | missingSchema => "--schema is required"
  | missingTask => "a subcommand is required"

end ApiShapes.Command
