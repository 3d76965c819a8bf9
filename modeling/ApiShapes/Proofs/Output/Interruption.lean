import ApiShapes.Proofs.Output.Session
import ApiShapes.Proofs.Storage.Interruption

/-!
# Generating with a refused call

The directories that generating has to create depend on those that the calls before have left, so
what it does is not laid down in the plan alone.  But plan and memory together lay it down: the
calls of a run are those of the run that nothing is refused in, as long as nothing is.  Main
statement: a refused call ends generating right there, behind the calls that come before it in the
run without a refusal and in the memory that they leave; and when a file is refused, the files of
the classes planned before it have been written, in order, and no others.
-/

namespace ApiShapes.Output

open Memory

variable {settings : Settings}

/-- The call that writes the file of a class. -/
def writeCall (settings : Settings) (artifact : Artifact) : Call :=
  .write (classPath settings artifact) (settings.file artifact).toUTF8

/-- Clearing writes no file. -/
theorem clear_follows : Follows (clear settings) () [] := by
  apply Follows.isDir
  · exact .removeDir settings.outputDir
  · exact .pure

theorem prepare_follows : Follows (prepare settings) () [] :=
  .createDirs settings.outputDir

/-- Writing a class writes its one file, behind a call for the directory if that is missing. -/
theorem writeClass_follows (artifact : Artifact) :
    Follows (writeClass settings artifact) (classPath settings artifact)
      [writeCall settings artifact] := by
  have putFile :
      Follows
        (do
          Storage.attempt (classPath settings artifact)
            (Storage.write (classPath settings artifact) (settings.file artifact).toUTF8)
          pure (classPath settings artifact))
        (classPath settings artifact) [writeCall settings artifact] :=
    (Follows.write _ _).map fun _ => classPath settings artifact
  apply Follows.isDir
  · exact putFile
  · exact (Follows.createDirs (classDir settings artifact)).bind putFile

/-- Generating writes the files of the plan in its order, whatever else it calls. -/
theorem generate_follows
    {schema : Schema} {classes : List Artifact}
    (planned : Plan.ofSchema schema settings.ns = .ok classes) :
    Follows (generate settings schema) (classes.map (classPath settings))
      (classes.map (writeCall settings)) := by
  rw [generate, planned]
  exact clear_follows.bind (prepare_follows.bind (.mapM writeClass_follows classes))

/-- The calls before a refused one that was to write a file have written those planned before. -/
theorem writes_before_refusal
    {refusal : Refusal} {calls before : List Call} {call : Call} {classes : List Artifact}
    (meets : refusal.Meets calls before call) (isWrite : refusal.operation = .write)
    (writes : Call.ofOperation .write calls = classes.map (writeCall settings)) :
    ∃ artifact, classes[refusal.remaining]? = some artifact ∧
      call = writeCall settings artifact ∧
      Call.ofOperation .write before =
        (classes.take refusal.remaining).map (writeCall settings) := by
  rcases meets with ⟨⟨rest, rfl⟩, sameOperation, waited⟩
  rw [isWrite] at sameOperation waited
  rw [Call.ofOperation_append, Call.ofOperation_cons, if_pos sameOperation.symm] at writes
  rcases List.map_eq_append_iff.mp writes.symm with ⟨earlier, later, rfl, ofEarlier, ofLater⟩
  rcases List.map_eq_cons_iff.mp ofLater with ⟨artifact, others, rfl, rfl, -⟩
  have position : refusal.remaining = earlier.length := by
    rw [← waited, ← ofEarlier, List.length_map]
  refine ⟨artifact, ?_, rfl, ?_⟩
  · rw [position, List.getElem?_append_right (Nat.le_refl _), Nat.sub_self]
    rfl
  · rw [position, List.take_left, ofEarlier]

/--
A refused call ends generating.  For every schema with a plan and every memory there is a run that
nothing is refused in, which writes the files of all classes in order.  With a refusal to come,
either the run is the same, because it makes fewer calls of the operation than the refusal waits
for, or it makes the same calls up to the one that the refusal is for.  Then its result is the
refusal with the path of that call, the memory is what the calls before have left, with the refused
call in the log, and if a file is refused, the files written are those of the classes before it.
-/
theorem generate_stops_at_refusal
    {schema : Schema} {classes : List Artifact}
    (planned : Plan.ofSchema schema settings.ns = .ok classes)
    (start : Memory) (refusal : Refusal) :
    ∃ calls,
      (start.awaiting none).run (generate settings schema) =
        (.ok (classes.map (classPath settings)), (start.after calls).awaiting none) ∧
      (start.after calls).log = start.log ++ calls ∧
      Call.ofOperation .write calls = classes.map (writeCall settings) ∧
      ((refusal.Passes calls ∧
          (start.awaiting (some refusal)).run (generate settings schema) =
            (.ok (classes.map (classPath settings)),
              (start.after calls).awaiting (some (refusal.afterCalls calls)))) ∨
        ∃ before call, refusal.Meets calls before call ∧
          (start.awaiting (some refusal)).run (generate settings schema) =
            (.error (.storage call.path refusal.fault),
              ((start.after before).awaiting none).record
                (.refused refusal.operation call.path)) ∧
          (start.after before).log = start.log ++ before ∧
          (refusal.operation = .write →
            ∃ artifact, classes[refusal.remaining]? = some artifact ∧
              call = writeCall settings artifact ∧
              Call.ofOperation .write before =
                (classes.take refusal.remaining).map (writeCall settings))) := by
  rcases generate_follows planned start with ⟨calls, writes, runs⟩
  refine ⟨calls, ?_, start.after_log calls, writes, ?_⟩
  · rw [runs, run_bind, run_makeAll]
    rfl
  · rcases refusal.passes_or_meets calls with passes | ⟨before, call, meets⟩
    · refine .inl ⟨passes, ?_⟩
      rw [runs, run_bind, run_makeAll_passes passes]
      rfl
    · refine .inr ⟨before, call, meets, ?_, start.after_log before, ?_⟩
      · rw [runs, run_bind, run_makeAll_meets meets]
      · intro isWrite
        exact writes_before_refusal meets isWrite writes

/-- The refusal of the second file that is to be written. -/
def secondWrite : Refusal := ⟨.write, 1, .busy⟩

/--
Three files are to be written and the second write is refused: the first file has been written, and
nothing is called after the refusal.
-/
theorem orders_stop_at_second_write :
    ∃ (before : List Call) (call : Call), secondWrite.operation = call.operation ∧
      (leftover.awaiting (some secondWrite)).run (generate orderSettings Plan.orderSchema) =
        (.error (.storage call.path .busy),
          ((leftover.after before).awaiting none).record (.refused .write call.path)) ∧
      Call.ofOperation .write before =
        (Plan.orderClasses.take 1).map (writeCall orderSettings) := by
  have planned : Plan.ofSchema Plan.orderSchema orderSettings.ns = .ok Plan.orderClasses :=
    Plan.ofSchema_orderSchema
  rcases generate_stops_at_refusal planned leftover secondWrite with
    ⟨calls, -, -, writes, ⟨passes, -⟩ | ⟨before, call, meets, stops, -, written⟩⟩
  · have threeWrites := congrArg List.length writes
    have atMostOne : (Call.ofOperation .write calls).length ≤ 1 := passes
    rw [threeWrites] at atMostOne
    exact absurd atMostOne (by decide)
  · rcases written rfl with ⟨artifact, -, -, files⟩
    exact ⟨before, call, meets.operation_eq.symm, stops, files⟩

end ApiShapes.Output
