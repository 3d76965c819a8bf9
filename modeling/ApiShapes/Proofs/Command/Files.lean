import ApiShapes.Proofs.Command.Clearing
import ApiShapes.Proofs.Output.Interruption
import ApiShapes.Proofs.Settings.Namespace

/-!
# The files that a run writes

Which files an invocation stands for is said by its settings and the plan of the schema alone.  A
run finds the schema in a memory and makes calls there.  Main statements: when the memory refuses
nothing, a run that generates succeeds if there are such files, and then they are what it writes, in
order; if there are none, it fails and makes no call.
-/

namespace ApiShapes

open Workspace

namespace Settings

variable {settings : Settings} {schema : Schema}

/-- The call that writes a file below the output directory. -/
def writeFile (settings : Settings) (file : Path × String) : Call :=
  .write (settings.outputDir.join file.1) file.2.toUTF8

/-- A class is written to the place and with the text that the settings give it. -/
theorem writeCall_eq {artifact : Artifact} (stays : artifact.StaysBelow) :
    Output.writeCall settings artifact = settings.writeFile (settings.placedFile artifact) := by
  rw [Output.writeCall, Output.classPath_eq stays]
  rfl

/-- Of the calls that generating makes, those that write are the ones for its files. -/
theorem generate_follows_files
    {files : List (Path × String)} (isGiven : settings.files? schema = some files) :
    ∃ paths, Memory.Follows (Output.generate settings schema) paths
      (files.map settings.writeFile) := by
  cases planned : Plan.ofSchema schema settings.ns with
  | error error =>
      rw [files?, planned] at isGiven
      cases isGiven
  | ok classes =>
      have areFiles : classes.map settings.placedFile = files := by
        rw [files?, planned] at isGiven
        exact Option.some.inj isGiven
      have sameCalls : files.map settings.writeFile =
          classes.map (Output.writeCall settings) := by
        rw [← areFiles, List.map_map]
        apply List.map_congr_left
        intro artifact member
        exact (writeCall_eq (Plan.staysBelow planned artifact member)).symm
      rw [sameCalls]
      exact ⟨_, Output.generate_follows planned⟩

theorem generate_fails
    (without : settings.files? schema = none) (memory : Memory) :
    ∃ error, run memory (Output.generate settings schema) = (.error error, memory) := by
  rw [files?, Option.map_eq_none_iff] at without
  cases planned : Plan.ofSchema schema settings.ns with
  | error error =>
      refine ⟨error, ?_⟩
      rw [Output.generate, planned]
      rfl
  | ok classes =>
      rw [planned] at without
      cases without

end Settings

namespace Command

variable {invocation : Invocation} {path : Path} {content : ByteArray} {schema : Schema}

/-- Once the schema is known, only the settings are left to be chosen. -/
theorem choice_of_schema (isSchema : Schema.ofBytes path content = .ok schema) :
    invocation.choice path content =
      (invocation.settings (invocation.baseDir.getD .empty) >>= fun settings =>
        settings.forSchema schema (invocation.baseDir.getD .empty)).map (·, schema) := by
  rw [Invocation.choice, isSchema]
  generalize invocation.baseDir.getD .empty = base
  have inOrder :
      (.ok base >>= fun base => invocation.settings base >>= fun settings =>
        .ok schema >>= fun schema => settings.forSchema schema base >>= fun chosen =>
          (.ok (chosen, schema) : Except Error (Settings × Schema))) =
        invocation.settings base >>= fun settings =>
          settings.forSchema schema base >>= fun chosen => .ok (chosen, schema) := rfl
  rw [inOrder]
  rcases invocation.settings base with error | settings
  · rfl
  · have isLast (outcome : Except Error Settings) :
        (outcome >>= fun chosen => .ok (chosen, schema)) = outcome.map (·, schema) := by
      cases outcome <;> rfl
    exact isLast (settings.forSchema schema base)

/-- The files of an invocation are those of the settings that are chosen for the schema. -/
theorem choice_cases
    (invocation : Invocation) (isSchema : Schema.ofBytes path content = .ok schema) :
    (∃ settings, invocation.choice path content = .ok (settings, schema) ∧
      invocation.files? (invocation.baseDir.getD .empty) schema = settings.files? schema) ∨
    ∃ error, invocation.choice path content = .error error ∧
      invocation.files? (invocation.baseDir.getD .empty) schema = none := by
  rw [choice_of_schema isSchema, Invocation.files?]
  rcases invocation.settings (invocation.baseDir.getD .empty) >>= fun settings =>
    settings.forSchema schema (invocation.baseDir.getD .empty) with error | settings
  · exact .inr ⟨error, rfl, rfl⟩
  · exact .inl ⟨settings, rfl, rfl⟩

section Runs

variable {memory : Memory} (isTask : invocation.task = .generate path)
  (holds : memory.contents.files path.components = some content)
  (isSchema : Schema.ofBytes path content = .ok schema)

include isTask holds isSchema

/--
Where an invocation has files for the schema and the memory refuses nothing, the run succeeds and
of its calls those that write are the ones for these files, in order.
-/
theorem run_writes_files
    (willing : memory.refusal = none) {files : List (Path × String)}
    (areFiles : invocation.files? (invocation.baseDir.getD .empty) schema = some files) :
    ∃ settings report done calls,
      invocation.choice path content = .ok (settings, schema) ∧
      run memory invocation.run = (.ok report, done) ∧
      done.log = memory.log ++ calls ∧
      Call.ofOperation .write calls = files.map settings.writeFile := by
  rcases choice_cases invocation isSchema with
    ⟨settings, isChoice, ofSettings⟩ | ⟨error, -, noFiles⟩
  · rw [ofSettings] at areFiles
    rcases Settings.generate_follows_files areFiles with ⟨paths, follows⟩
    rcases follows memory with ⟨calls, areWrites, makes⟩
    have isWilling : memory.awaiting none = memory := by
      rw [← willing]
      rfl
    have generated : run memory (Output.generate settings schema) =
        (.ok paths, (memory.after calls).awaiting none) := by
      have made := makes none
      rw [Memory.run_bind, Memory.run_makeAll, isWilling] at made
      exact made
    have isChosen : run memory (invocation.choose path) = _ := choose_answers holds
    have reported : ∃ report,
        run memory invocation.run = (.ok report, (memory.after calls).awaiting none) := by
      rw [run_of_generate isTask, run_bind, isChosen, isChoice]
      simp only [generateReport]
      rw [run_bind, generated]
      exact ⟨_, rfl⟩
    rcases reported with ⟨report, succeeds⟩
    exact ⟨settings, report, _, calls, isChoice, succeeds, memory.after_log calls, areWrites⟩
  · rw [noFiles] at areFiles
    cases areFiles

/-- Where an invocation has no files for the schema, the run fails and makes no call. -/
theorem run_fails_without_files
    (noFiles : invocation.files? (invocation.baseDir.getD .empty) schema = none) :
    ∃ error, run memory invocation.run = (.error error, memory) := by
  have isChosen : run memory (invocation.choose path) = _ := choose_answers holds
  rw [run_of_generate isTask, run_bind, isChosen]
  rcases choice_cases invocation isSchema with
    ⟨settings, isChoice, ofSettings⟩ | ⟨error, isChoice, -⟩
  · rw [ofSettings] at noFiles
    rcases Settings.generate_fails noFiles memory with ⟨error, isFailure⟩
    refine ⟨error, ?_⟩
    rw [isChoice]
    simp only [generateReport]
    rw [run_bind, isFailure]
  · exact ⟨error, by rw [isChoice]⟩

end Runs

end Command

end ApiShapes
