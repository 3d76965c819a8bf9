import ApiShapes.Storage.FileTree
import ApiShapes.Storage.Memory

/-!
# Questions to a workspace

Of the operations of a workspace three only ask: whether there is a directory, what a file holds,
and where relative paths start.  A program that asks first and works afterwards leaves nothing
behind when it fails while it asks.  `OnlyAsks` says of a program that it changes nothing,
`FailsByStorage` that its errors are refusals of the storage, and `AsksFirst` that an error of what
was given leaves everything as it was.  Main statement: a program of the second or third kind behind
one of the first makes one of the third.  `Recorded` adds to a workspace the list of the calls that
are there to change it, so that also calls without an effect are seen.
-/

namespace ApiShapes

/-- Whether an error comes from what was given: a text, a schema or an output directory. -/
def Error.IsOfInput : Error → Prop
  | json _ | invalidSchema _ _ | unsafeOutputDir _ => True
  | environment _ | storage _ _ => False

/-- In a workspace over states the questions leave the state as it is. -/
structure Workspace.QuestionsKeep (σ : Type) [Workspace (StateM σ)] : Prop where
  isDir : ∀ (path : Path) (state : σ), ((Storage.isDir path : StateM σ Bool) state).2 = state
  read : ∀ (path : Path) (state : σ),
    ((Workspace.read path : StateM σ (Except StorageFault ByteArray)) state).2 = state
  currentDir : ∀ state : σ,
    ((Workspace.currentDir : StateM σ (Except StorageFault Path)) state).2 = state

/-- A state together with the calls that were made to change it. -/
structure Recorded (σ : Type) where
  state : σ
  calls : List Call

namespace Recorded

variable {σ α : Type}

/-- Asks without a trace. -/
def ask (question : StateM σ α) : StateM (Recorded σ) α := fun recorded =>
  ((question recorded.state).1, { recorded with state := (question recorded.state).2 })

/-- Makes a call, whatever comes of it, and writes it down. -/
def make (call : Call) (operation : StateM σ α) : StateM (Recorded σ) α := fun recorded =>
  ((operation recorded.state).1, ⟨(operation recorded.state).2, recorded.calls ++ [call]⟩)

/-- The workspace with a list of its calls. -/
instance [Workspace (StateM σ)] : Workspace (StateM (Recorded σ)) where
  isDir path := ask (Storage.isDir path)
  createDirs path := make (.createDirs path) (Storage.createDirs path)
  removeDir path := make (.removeDir path) (Storage.removeDir path)
  write path content := make (.write path content) (Storage.write path content)
  read path := ask (Workspace.read path)
  currentDir := ask Workspace.currentDir

theorem ask_keeps
    {question : StateM σ α} (keeps : ∀ state, (question state).2 = state)
    (recorded : Recorded σ) : (ask question recorded).2 = recorded := by
  rw [ask, keeps]

end Recorded

namespace Workspace

/-- The list of calls does not grow by a question. -/
theorem QuestionsKeep.recorded
    {σ : Type} [Workspace (StateM σ)] (keep : QuestionsKeep σ) : QuestionsKeep (Recorded σ) where
  isDir path := Recorded.ask_keeps (keep.isDir path)
  read path := Recorded.ask_keeps (keep.read path)
  currentDir := Recorded.ask_keeps keep.currentDir

/-- Questions to a storage in memory change nothing. -/
theorem memory_questionsKeep : QuestionsKeep Memory where
  isDir _ _ := rfl
  read _ _ := rfl
  currentDir _ := rfl

/-- Questions to a tree of files change nothing. -/
theorem fileTree_questionsKeep : QuestionsKeep FileTree where
  isDir _ _ := rfl
  read _ _ := rfl
  currentDir _ := rfl

section Programs

variable {σ α β : Type}

/-- The result of a program, and the state that it leaves behind. -/
def run (start : σ) (program : ExceptT Error (StateM σ) α) : Except Error α × σ :=
  program.run start

/-- Whatever comes of it, the program leaves the state as it is. -/
def OnlyAsks (program : ExceptT Error (StateM σ) α) : Prop :=
  ∀ start, (run start program).2 = start

/-- When what was given is at fault, the program ends before it changes anything. -/
def AsksFirst (program : ExceptT Error (StateM σ) α) : Prop :=
  ∀ start error now, run start program = (.error error, now) → error.IsOfInput → now = start

/-- From a state the program ends with an error. -/
def Fails (start : σ) (program : ExceptT Error (StateM σ) α) : Prop :=
  ∃ error, (run start program).1 = .error error

/-- The errors that the program ends with do not come from what was given. -/
def FailsByStorage (program : ExceptT Error (StateM σ) α) : Prop :=
  ∀ start error now, run start program = (.error error, now) → ¬ error.IsOfInput

/-- A program goes on with the state that the part before has left, unless that part failed. -/
theorem run_bind
    (start : σ) (program : ExceptT Error (StateM σ) α)
    (next : α → ExceptT Error (StateM σ) β) :
    run start (program >>= next) =
      match run start program with
      | (.ok result, now) => run now (next result)
      | (.error error, now) => (.error error, now) := by
  have sequence : run start (program >>= next) =
      (fun (result, now) => ExceptT.bindCont next result now) (run start program) := rfl
  rw [sequence]
  rcases run start program with ⟨_ | result, now⟩ <;> rfl

/-- A program of two parts succeeds only if both do. -/
theorem run_bind_eq_ok
    {start done : σ} {program : ExceptT Error (StateM σ) α}
    {next : α → ExceptT Error (StateM σ) β} {answer : β}
    (succeeds : run start (program >>= next) = (.ok answer, done)) :
    ∃ result now, run start program = (.ok result, now) ∧
      run now (next result) = (.ok answer, done) := by
  rw [run_bind] at succeeds
  generalize run start program = ending at succeeds
  rcases ending with ⟨_ | result, now⟩
  · cases succeeds
  · exact ⟨result, now, rfl, succeeds⟩

/-- Asked in a state, a program ends with an outcome and leaves the state as it is. -/
def Answers (start : σ) (program : ExceptT Error (StateM σ) α) (outcome : Except Error α) : Prop :=
  run start program = (outcome, start)

theorem Answers.ofExcept (start : σ) (outcome : Except Error α) :
    Answers start (liftM outcome : ExceptT Error (StateM σ) α) outcome := by
  cases outcome <;> rfl

/-- Answers are put together as the programs are. -/
theorem Answers.bind
    {start : σ} {program : ExceptT Error (StateM σ) α} {outcome : Except Error α}
    {next : α → ExceptT Error (StateM σ) β} {rest : α → Except Error β}
    (first : Answers start program outcome)
    (each : ∀ result, Answers start (next result) (rest result)) :
    Answers start (program >>= next) (outcome >>= rest) := by
  rw [Answers] at first
  rw [Answers, run_bind, first]
  cases outcome with
  | error error => rfl
  | ok result => exact each result

namespace OnlyAsks

theorem pure (result : α) : OnlyAsks (Pure.pure result : ExceptT Error (StateM σ) α) :=
  fun _ => rfl

theorem ofExcept (result : Except Error α) :
    OnlyAsks (liftM result : ExceptT Error (StateM σ) α) := by
  intro start
  cases result <;> rfl

/-- A question whose refusal is an error is still a question. -/
theorem mapError
    {question : StateM σ (Except StorageFault α)} (keeps : ∀ state, (question state).2 = state)
    (change : StorageFault → Error) :
    OnlyAsks (.mk do return (← question).mapError change) := by
  intro start
  exact keeps start

/-- A program whose parts only ask only asks. -/
theorem bind
    {program : ExceptT Error (StateM σ) α} {next : α → ExceptT Error (StateM σ) β}
    (first : OnlyAsks program) (rest : ∀ result, OnlyAsks (next result)) :
    OnlyAsks (program >>= next) := by
  intro start
  have isStart := first start
  rw [run_bind]
  generalize run start program = ending at isStart
  rcases ending with ⟨_ | result, now⟩
  · exact isStart
  · exact (rest result now).trans isStart

end OnlyAsks

namespace Fails

/-- Where the first part fails, so does the whole. -/
theorem first
    {start : σ} {program : ExceptT Error (StateM σ) α} (fails : Fails start program)
    (next : α → ExceptT Error (StateM σ) β) : Fails start (program >>= next) := by
  rcases fails with ⟨error, isError⟩
  refine ⟨error, ?_⟩
  rw [run_bind]
  generalize run start program = ending at isError
  rcases ending with ⟨_ | result, now⟩ <;> cases isError
  rfl

/-- Behind a part that only asks, a failure from the same state is a failure of the whole. -/
theorem behind
    {start : σ} {program : ExceptT Error (StateM σ) α}
    {next : α → ExceptT Error (StateM σ) β} (asks : OnlyAsks program)
    (fails : ∀ result, Fails start (next result)) : Fails start (program >>= next) := by
  have isStart := asks start
  rw [Fails, run_bind]
  generalize run start program = ending at isStart
  rcases ending with ⟨error | result, now⟩
  · exact ⟨error, rfl⟩
  · obtain rfl : now = start := isStart
    exact fails result

end Fails

namespace FailsByStorage

theorem pure (result : α) : FailsByStorage (Pure.pure result : ExceptT Error (StateM σ) α) := by
  rintro start error now ⟨⟩

theorem lift (question : StateM σ α) :
    FailsByStorage (liftM question : ExceptT Error (StateM σ) α) := by
  rintro start error now ⟨⟩

/-- A refusal of the storage is no error of what was given. -/
theorem attempt (path : Path) (operation : StateM σ (Except StorageFault α)) :
    FailsByStorage (Storage.attempt path operation) := by
  intro start error now failed
  have result : (operation start).1.mapError (.storage path) = .error error :=
    congrArg Prod.fst failed
  cases outcome : (operation start).1 with
  | ok value =>
      rw [outcome] at result
      cases result
  | error fault =>
      rw [outcome] at result
      cases result
      exact id

/-- A program whose parts fail by the storage only does so itself. -/
theorem bind
    {program : ExceptT Error (StateM σ) α} {next : α → ExceptT Error (StateM σ) β}
    (first : FailsByStorage program) (rest : ∀ result, FailsByStorage (next result)) :
    FailsByStorage (program >>= next) := by
  intro start error now failed
  rw [run_bind] at failed
  cases early : run start program with
  | mk outcome middle =>
      rw [early] at failed
      cases outcome with
      | ok result => exact rest result middle error now failed
      | error cause =>
          cases failed
          exact first start _ _ early

/-- Item by item, no errors come up but those of the storage. -/
theorem mapM
    {program : α → ExceptT Error (StateM σ) β} (each : ∀ item, FailsByStorage (program item))
    (items : List α) : FailsByStorage (items.mapM program) := by
  induction items with
  | nil => exact pure []
  | cons first others ih =>
      rw [List.mapM_cons]
      exact (each first).bind fun _ => ih.bind fun _ => pure _

end FailsByStorage

/-- A program that fails by the storage only never fails by what was given. -/
theorem FailsByStorage.asksFirst
    {program : ExceptT Error (StateM σ) α} (fails : FailsByStorage program) :
    AsksFirst program := by
  intro start error now failed isOfInput
  exact absurd isOfInput (fails start error now failed)

section Behind

variable {program : ExceptT Error (StateM σ) α} {next : α → ExceptT Error (StateM σ) β}
  (asks : OnlyAsks program)

include asks

/-- Work that asks first still does so behind a part that only asks. -/
theorem OnlyAsks.asksFirst (rest : ∀ result, AsksFirst (next result)) :
    AsksFirst (program >>= next) := by
  intro start error now failed isOfInput
  have isStart := asks start
  rw [run_bind] at failed
  generalize run start program = ending at isStart failed
  rcases ending with ⟨_ | result, middle⟩
  · cases failed
    exact isStart
  · exact (rest result middle error now failed isOfInput).trans isStart

/-- A program that fails while it asks has not begun to work. -/
theorem OnlyAsks.keeps_of_fails
    {start now : σ} {outcome : Except Error β} (fails : Fails start program)
    (ends : run start (program >>= next) = (outcome, now)) : now = start := by
  rcases fails with ⟨cause, isCause⟩
  have isStart := asks start
  rw [run_bind] at ends
  generalize run start program = ending at isStart isCause ends
  rcases ending with ⟨_ | result, middle⟩
  · cases ends
    exact isStart
  · cases isCause

end Behind

end Programs

end Workspace

end ApiShapes
