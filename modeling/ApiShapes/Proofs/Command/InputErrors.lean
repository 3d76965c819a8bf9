import ApiShapes.Proofs.Command.Choice
import ApiShapes.Proofs.Output.Session
import ApiShapes.Proofs.Plan.Faults

/-!
# Input errors cost nothing

A schema that cannot be read, settings that are refused and documents that cannot be planned must
not cost the output of an earlier run.  All of them are found while a program still asks: what comes
behind the plan, or behind the choice of the settings, can only fail by the storage.  Main
statement: when the program, generating for a file or generating for a schema ends with an error of
what was given, or because the text of the schema cannot be had, no call was made that could change
anything, and the workspace is what it was.
-/

namespace ApiShapes

open Workspace

/-- The file of the schema that a task is for, if it is for one. -/
def Command.Task.schema? : Command.Task → Option Path
  | generate path => some path
  | clear path => path

namespace Output

variable {σ : Type} [Workspace (StateM σ)] {settings : Settings}

/-- Clearing fails only by a refusal of the storage. -/
theorem clear_failsByStorage : FailsByStorage (clear settings : ExceptT Error (StateM σ) Unit) := by
  refine .bind (.lift _) fun isThere => ?_
  cases isThere with
  | false => exact .pure ()
  | true => exact .attempt _ _

theorem writeClass_failsByStorage (artifact : Artifact) :
    FailsByStorage (writeClass settings artifact : ExceptT Error (StateM σ) Path) := by
  have putFile :
      FailsByStorage
        (do
          Storage.attempt (classPath settings artifact)
            (Storage.write (m := StateM σ) (classPath settings artifact)
              (settings.file artifact).toUTF8)
          pure (classPath settings artifact)) :=
    .bind (.attempt _ _) fun _ => .pure _
  refine .bind (.lift _) fun isThere => ?_
  cases isThere with
  | true => exact putFile
  | false => exact .bind (.attempt _ _) fun _ => putFile

/-- Behind the plan there is nothing left that what was given could be at fault in. -/
theorem replace_failsByStorage (classes : List Artifact) :
    FailsByStorage
      (do
        clear settings
        prepare settings
        classes.mapM (writeClass settings) : ExceptT Error (StateM σ) (List Path)) := by
  refine .bind clear_failsByStorage fun _ => .bind (.attempt _ _) fun _ => ?_
  exact .mapM writeClass_failsByStorage classes

/-- Generating plans all classes before it touches the storage. -/
theorem generate_asksFirst (schema : Schema) :
    AsksFirst (generate settings schema : ExceptT Error (StateM σ) (List Path)) :=
  OnlyAsks.asksFirst (.ofExcept _) fun classes => (replace_failsByStorage classes).asksFirst

end Output

namespace Command

variable {σ : Type} [Workspace (StateM σ)]

theorem generateReport_asksFirst (chosen : Settings × Schema) :
    AsksFirst (generateReport chosen : ExceptT Error (StateM σ) String) := by
  rw [generateReport, Output.generate, bind_assoc]
  refine OnlyAsks.asksFirst (.ofExcept _) fun classes => FailsByStorage.asksFirst ?_
  exact .bind (Output.replace_failsByStorage classes) fun _ => .pure _

theorem clearReport_asksFirst (settings : Settings) :
    AsksFirst (clearReport settings : ExceptT Error (StateM σ) String) :=
  FailsByStorage.asksFirst (.bind Output.clear_failsByStorage fun _ => .pure _)

section Run

variable (keep : QuestionsKeep σ)

include keep

/-- Whatever an invocation is to do, its input is judged before anything is changed. -/
theorem run_asksFirst (invocation : Invocation) :
    AsksFirst (invocation.run : ExceptT Error (StateM σ) String) := by
  cases task : invocation.task with
  | generate path =>
      rw [run_of_generate task]
      exact (choose_onlyAsks keep invocation path).asksFirst generateReport_asksFirst
  | clear schema =>
      cases schema with
      | none =>
          rw [run_of_clearAlone task]
          exact (chooseAlone_onlyAsks keep invocation).asksFirst clearReport_asksFirst
      | some path =>
          rw [run_of_clear task]
          exact (choose_onlyAsks keep invocation path).asksFirst fun chosen =>
            clearReport_asksFirst chosen.1

/-- A run for a schema without a text ends where it asks for that text. -/
theorem run_keeps_of_unreadable
    {invocation : Invocation} {path : Path} (isFor : invocation.task.schema? = some path)
    {start now : σ} {fault : StorageFault} (unreadable : Schema.Unreadable path start fault)
    {outcome : Except Error String} (ends : run start invocation.run = (outcome, now)) :
    now = start := by
  have chosen := choose_onlyAsks keep invocation path
  have fails := choose_fails keep invocation unreadable
  cases task : invocation.task with
  | generate schema =>
      obtain rfl : schema = path := by simpa [task, Task.schema?] using isFor
      rw [run_of_generate task] at ends
      exact chosen.keeps_of_fails fails ends
  | clear schema =>
      obtain rfl : schema = some path := by simpa [task, Task.schema?] using isFor
      rw [run_of_clear task] at ends
      exact chosen.keeps_of_fails fails ends

theorem generateFor_asksFirst (path : Path) (settings : Settings) (base : Path) :
    AsksFirst
      (Output.generateFor path settings base : ExceptT Error (StateM σ) (List Path)) := by
  rw [generateFor_eq]
  exact (settings.forFile_onlyAsks keep path base).asksFirst fun chosen =>
    Output.generate_asksFirst chosen.2

/-- A schema that cannot be read leaves everything as it was. -/
theorem generateFor_keeps_of_unreadable
    {path : Path} {start now : σ} {fault : StorageFault}
    (unreadable : Schema.Unreadable path start fault) {settings : Settings} {base : Path}
    {outcome : Except Error (List Path)}
    (ends : run start (Output.generateFor path settings base) = (outcome, now)) : now = start := by
  rw [generateFor_eq] at ends
  exact (settings.forFile_onlyAsks keep path base).keeps_of_fails
    (settings.forFile_fails unreadable base) ends

end Run

/--
Input errors cost nothing, in any workspace whose questions change nothing.  Let a run of the
program, generating for the schema in a file or generating for a schema end with an error of what
was given, which is a text that is no JSON, a schema that is not valid or an output directory that
is not safe, or let the first two of them end with the refusal of the schema file itself.  Then no
call was made to change the workspace, and its state is the one at the start.
-/
theorem input_error_costs_nothing
    (keep : QuestionsKeep σ) (start now : Recorded σ) (error : Error) :
    (∀ invocation : Invocation, run start invocation.run = (.error error, now) →
      (error.IsOfInput ∨ ∃ path fault, invocation.task.schema? = some path ∧
        Schema.Unreadable path start fault ∧ error = .storage path fault) →
      now = start) ∧
    (∀ path settings base,
      run start (Output.generateFor path settings base) = (.error error, now) →
      (error.IsOfInput ∨ ∃ fault,
        Schema.Unreadable path start fault ∧ error = .storage path fault) →
      now = start) ∧
    ∀ settings schema, run start (Output.generate settings schema) = (.error error, now) →
      error.IsOfInput → now = start := by
  refine ⟨?_, ?_, ?_⟩
  · rintro invocation failed (isOfInput | ⟨path, fault, isFor, unreadable, -⟩)
    · exact run_asksFirst keep.recorded invocation start error now failed isOfInput
    · exact run_keeps_of_unreadable keep.recorded isFor unreadable failed
  · rintro path settings base failed (isOfInput | ⟨fault, unreadable, -⟩)
    · exact generateFor_asksFirst keep.recorded path settings base start error now failed isOfInput
    · exact generateFor_keeps_of_unreadable keep.recorded unreadable failed
  · intro settings schema failed isOfInput
    exact Output.generate_asksFirst schema start error now failed isOfInput

/-- An earlier output, of which no call is written down yet. -/
def earlierOutput : Recorded Memory := ⟨Output.leftover, []⟩

/-- Generating into the directory of an earlier output, for a schema that is not there. -/
def withoutSchema : Invocation := ⟨.generate ⟨"api.json"⟩, none, ⟨"out"⟩, "App"⟩

set_option maxRecDepth 20000 in
theorem earlier_output_survives :
    (∃ now,
      run earlierOutput withoutSchema.run = (.error (.storage ⟨"api.json"⟩ .notFound), now) ∧
        now = earlierOutput) ∧
    ∃ now,
      run earlierOutput (Output.generate Output.orderSettings Plan.faultySchema) =
          (.error (.invalidSchema "/a~1b/response/~01//0" (.elementNotMap .integer)), now) ∧
        now = earlierOutput := by
  refine ⟨⟨_, rfl, ?_⟩, ⟨_, rfl, ?_⟩⟩
  · refine (input_error_costs_nothing memory_questionsKeep earlierOutput _
      (.storage ⟨"api.json"⟩ .notFound)).1 withoutSchema rfl (.inr ?_)
    exact ⟨⟨"api.json"⟩, .notFound, rfl, rfl, rfl⟩
  · exact (input_error_costs_nothing memory_questionsKeep earlierOutput _
      (.invalidSchema _ _)).2.2 Output.orderSettings Plan.faultySchema rfl trivial

end Command

end ApiShapes
