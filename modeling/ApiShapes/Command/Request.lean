import ApiShapes.Command.Options
import ApiShapes.Settings

/-!
# The command line

The arguments of the program ask for a task, `generate` or `clear`, for the version or for help.
Options that choose where and how to write stand before or after the task, and those after it win;
an option may be given once on either side.  A value follows its option as the next argument, or in
the same argument: behind an equals sign, or directly behind a letter.
-/

namespace ApiShapes.Command

/-- A task with all that is needed to carry it out. -/
structure Invocation where
  task : Task
  baseDir : Option Path
  output : Path
  ns : String
  deriving Repr, DecidableEq

/-- What the arguments ask for. -/
inductive Request where
  | invoke (invocation : Invocation)
  | version
  | help
  deriving Repr, DecidableEq

/-- What is known at some place of the arguments: the task, the options before it and behind it. -/
structure Progress where
  task : Option TaskName
  before : Options
  here : Options
  deriving Repr, DecidableEq

/-- What an argument leads to: more arguments, perhaps first the value of an option, or the end. -/
inductive Effect where
  | proceed (progress : Progress)
  | await (setting : Setting) (progress : Progress)
  | stop (request : Request)
  deriving Repr

/-- Gives a value for an option on the side of the task where the arguments are. -/
def Progress.set (progress : Progress) (setting : Setting) (value : String) :
    Except UsageFault Progress :=
  (progress.here.set setting value).map fun here => { progress with here }

/-- The effect of an option without a value. -/
def Progress.flag (progress : Progress) : Flag → Effect
  | .verbose => .proceed progress
  | .version => .stop .version
  | .help => .stop .help

/-- Takes an argument that starts with two hyphens, without these. -/
def Progress.long (progress : Progress) (text : List Char) : Except UsageFault Effect :=
  let name := String.ofList (text.takeWhile (· ≠ '='))
  let value := (text.dropWhile (· ≠ '=')).drop 1
  let hasValue := '=' ∈ text
  match longOption? progress.task name with
  | none => .error (.unexpectedArgument name)
  | some (.inl setting) =>
      if hasValue then (progress.set setting (.ofList value)).map .proceed
      else .ok (.await setting progress)
  | some (.inr flag) =>
      if hasValue then .error (.unexpectedValue name) else .ok (progress.flag flag)

/-- Takes the letters behind one hyphen. -/
def Progress.short (progress : Progress) : List Char → Except UsageFault Effect
  | [] => .ok (.proceed progress)
  | letter :: rest =>
      match shortOption? progress.task letter, rest with
      | none, _ => .error (.unexpectedArgument (.singleton letter))
      | some (.inl setting), [] => .ok (.await setting progress)
      | some (.inl setting), '=' :: value => (progress.set setting (.ofList value)).map .proceed
      | some (.inl setting), value => (progress.set setting (.ofList value)).map .proceed
      | some (.inr .verbose), rest => progress.short rest
      | some (.inr flag), _ => .ok (progress.flag flag)

/-- Takes an argument that is no option: the task, once. -/
def Progress.word (progress : Progress) (arg : String) : Except UsageFault Effect :=
  match progress.task, task? arg with
  | none, some task => .ok (.proceed ⟨some task, progress.here, .none⟩)
  | _, _ => .error (.unexpectedArgument arg)

/-- Whether an argument looks like an option; a hyphen alone does not. -/
def looksLikeOption (arg : String) : Bool :=
  match arg.toList with
  | '-' :: _ :: _ => true
  | _ => false

/-- Takes an argument where no value is awaited. -/
def Progress.take (progress : Progress) (arg : String) : Except UsageFault Effect :=
  match arg.toList with
  | '-' :: '-' :: text => progress.long text
  | '-' :: letter :: rest => progress.short (letter :: rest)
  | _ => progress.word arg

/-- What the arguments ask for when all are taken. -/
def Progress.finish (progress : Progress) : Except UsageFault Request := do
  match progress.task with
  | none => throw .missingTask
  | some name =>
      let task ← progress.here.task name
      pure (.invoke
        { task
          baseDir := progress.here.baseDir <|> progress.before.baseDir
          output :=
            (progress.here.output <|> progress.before.output).getD Settings.defaultOutputDir
          ns := (progress.here.ns <|> progress.before.ns).getD Settings.defaultNamespace })

/-- What the word `help` asks for: help, on a task if one is named. -/
def helpRequest : List String → Except UsageFault Request
  | [] => .ok .help
  | [topic] =>
      if (task? topic).isSome ∨ topic = "help" then .ok .help
      else .error (.unexpectedArgument topic)
  | _ :: arg :: _ => .error (.unexpectedArgument arg)

/-- Takes the arguments one after the other, the first of them perhaps as a value that is due. -/
def Progress.run (progress : Progress) (awaited : Option Setting) :
    List String → Except UsageFault Request
  | [] =>
      match awaited with
      | some setting => .error (.missingValue setting)
      | none => progress.finish
  | arg :: args =>
      match awaited with
      | some setting =>
          if looksLikeOption arg then .error (.missingValue setting)
          else progress.set setting arg >>= fun progress => progress.run none args
      | none =>
          if arg = "--" then
            match args with
            | [] => progress.finish
            | extra :: _ => .error (.unexpectedArgument extra)
          else if arg = "help" ∧ progress.task = none then
            helpRequest args
          else
            progress.take arg >>= fun
              | .proceed progress => progress.run none args
              | .await setting progress => progress.run (some setting) args
              | .stop request => .ok request

/-- What the arguments of the program ask for. -/
def Request.ofArgs (args : List String) : Except UsageFault Request :=
  (⟨none, .none, .none⟩ : Progress).run none args

end ApiShapes.Command
