import ApiShapes.Proofs.Storage.Log
import Mathlib.Data.List.Induction

/-!
# Programs that a refusal interrupts

A memory can be told to refuse one call to come.  Which calls a program makes depends on what it
finds in the memory, and that depends on the calls before; but a refusal changes nothing there until
it comes, and the program ends with it.  `Follows` says that a program makes the calls of a list
that the memory at its start decides, and does nothing else.  Main statements: programs that follow
their calls can be put one behind the other, and a list of calls is carried out up to the one that
is refused, or as a whole if none of them is.
-/

namespace ApiShapes

namespace Call

/-- The operation that a call is of. -/
def operation : Call → Operation
  | createDirs _ => .createDirs
  | removeDir _ => .removeDir
  | write _ _ => .write
  | refused operation _ => operation

/-- The path that a call is about. -/
def path : Call → Path
  | createDirs path => path
  | removeDir path => path
  | write path _ => path
  | refused _ path => path

/-- What a call does to a memory when it is not refused. -/
def change : Call → Memory → Memory
  | createDirs path, memory => memory.addDirs path.components
  | removeDir path, memory => memory.dropBelow path.components
  | write path content, memory => memory.putFile path.components content
  | refused _ _, memory => memory

/-- The calls of an operation among some calls. -/
def ofOperation (operation : Operation) (calls : List Call) : List Call :=
  calls.filter fun call => call.operation = operation

theorem ofOperation_cons (operation : Operation) (call : Call) (calls : List Call) :
    ofOperation operation (call :: calls) =
      if operation = call.operation then call :: ofOperation operation calls
      else ofOperation operation calls := by
  simp only [ofOperation, List.filter_cons, decide_eq_true_eq, @eq_comm _ operation]

/-- The calls of an operation are picked from each part of a list. -/
theorem ofOperation_append (operation : Operation) (first second : List Call) :
    ofOperation operation (first ++ second) =
      ofOperation operation first ++ ofOperation operation second :=
  List.filter_append first second

end Call

namespace Refusal

/-- A refusal still waits after some calls: too few of them are of its operation. -/
def Passes (refusal : Refusal) (calls : List Call) : Prop :=
  (Call.ofOperation refusal.operation calls).length ≤ refusal.remaining

/-- A refusal is for a call: it waits for as many of its operation as come before. -/
structure Meets (refusal : Refusal) (calls before : List Call) (call : Call) : Prop where
  split : ∃ rest, calls = before ++ call :: rest
  operation_eq : call.operation = refusal.operation
  waited : (Call.ofOperation refusal.operation before).length = refusal.remaining

/-- A refusal after some calls that it passed. -/
def afterCalls (refusal : Refusal) (calls : List Call) : Refusal :=
  { refusal with
    remaining := refusal.remaining - (Call.ofOperation refusal.operation calls).length }

/-- A refusal either still waits after some calls, or it is for one of them. -/
theorem passes_or_meets (refusal : Refusal) (calls : List Call) :
    refusal.Passes calls ∨ ∃ before call, refusal.Meets calls before call := by
  induction calls using List.reverseRecOn with
  | nil => exact .inl (Nat.zero_le _)
  | append_singleton calls last ih =>
      rcases ih with passes | ⟨before, call, ⟨rest, rfl⟩, sameOperation, waited⟩
      · by_cases isNext : last.operation = refusal.operation ∧
            (Call.ofOperation refusal.operation calls).length = refusal.remaining
        · exact .inr ⟨calls, last, ⟨[], rfl⟩, isNext.1, isNext.2⟩
        · left
          rw [Passes] at passes ⊢
          rw [Call.ofOperation_append, Call.ofOperation_cons, List.length_append]
          split
          · rename_i sameOperation
            have notNext : (Call.ofOperation refusal.operation calls).length ≠
                refusal.remaining := fun waited => isNext ⟨sameOperation.symm, waited⟩
            have noOthers : Call.ofOperation refusal.operation [] = [] := rfl
            rw [noOthers, List.length_singleton]
            omega
          · exact passes
      · exact .inr ⟨before, call, ⟨rest ++ [last], by simp⟩, sameOperation, waited⟩

end Refusal

namespace Memory

/-- The memory with another refusal to come. -/
def awaiting (memory : Memory) (refusal : Option Refusal) : Memory :=
  { memory with refusal := refusal }

/-- The memory after some calls, none of which was refused. -/
def after (memory : Memory) (calls : List Call) : Memory :=
  calls.foldl (fun now call => (call.change now).record call) memory

/-- Makes a call. -/
def make (call : Call) : StateM Memory (Except StorageFault Unit) :=
  Memory.call call.operation call.path call call.change

/-- Makes calls one after the other, up to the first that is refused. -/
def makeAll : List Call → ExceptT Error (StateM Memory) Unit
  | [] => pure ()
  | call :: calls => do
      Storage.attempt call.path (make call)
      makeAll calls

theorem after_cons (memory : Memory) (call : Call) (calls : List Call) :
    memory.after (call :: calls) = ((call.change memory).record call).after calls := rfl

/-- Calls that are not refused join the log in their order. -/
theorem after_log (memory : Memory) (calls : List Call) :
    (memory.after calls).log = memory.log ++ calls := by
  induction calls generalizing memory with
  | nil => exact (List.append_nil _).symm
  | cons call calls ih =>
      have ofCall : ((call.change memory).record call).log = memory.log ++ [call] := by
        cases call <;> rfl
      rw [after_cons, ih, ofCall, List.append_assoc, List.singleton_append]

/-- A refusal to come plays no part in what a call does. -/
theorem change_awaiting (memory : Memory) (refusal : Option Refusal) (call : Call) :
    (call.change (memory.awaiting refusal)).record call =
      ((call.change memory).record call).awaiting refusal := by
  cases call <;> rfl

/-! ## Carrying calls out -/

/-- Without a refusal to come a call is carried out. -/
theorem run_attempt_make (memory : Memory) (call : Call) :
    (memory.awaiting none).run (Storage.attempt call.path (make call)) =
      (.ok (), ((call.change memory).record call).awaiting none) := by
  rw [← change_awaiting]
  rfl

/-- A call meets a refusal: it is refused, it counts, or it is of another operation. -/
theorem run_attempt_make_awaiting (memory : Memory) (refusal : Refusal) (call : Call) :
    (memory.awaiting (some refusal)).run (Storage.attempt call.path (make call)) =
      if refusal.operation = call.operation then
        if refusal.remaining = 0 then
          (.error (.storage call.path refusal.fault),
            (memory.awaiting none).record (.refused refusal.operation call.path))
        else
          (.ok (), ((call.change memory).record call).awaiting
            (some { refusal with remaining := refusal.remaining - 1 }))
      else
        (.ok (), ((call.change memory).record call).awaiting (some refusal)) := by
  simp only [← change_awaiting]
  rw [run_attempt, make, Memory.call]
  simp only [awaiting]
  split
  · rename_i sameOperation
    rw [sameOperation]
    split <;> rfl
  · rfl

/-- Without a refusal to come all calls are carried out. -/
theorem run_makeAll (memory : Memory) (calls : List Call) :
    (memory.awaiting none).run (makeAll calls) = (.ok (), (memory.after calls).awaiting none) := by
  induction calls generalizing memory with
  | nil => rfl
  | cons call calls ih =>
      rw [makeAll, run_bind, run_attempt_make]
      exact ih _

/-- Calls in two parts are made one part after the other, as long as none is refused. -/
theorem run_makeAll_append (memory : Memory) (first second : List Call) :
    memory.run (makeAll (first ++ second)) =
      match memory.run (makeAll first) with
      | (.ok (), now) => now.run (makeAll second)
      | (.error error, now) => (.error error, now) := by
  induction first generalizing memory with
  | nil => rfl
  | cons call calls ih =>
      rw [List.cons_append, makeAll, makeAll, run_bind, run_bind]
      rcases memory.run (Storage.attempt call.path (make call)) with ⟨_ | _, now⟩
      · rfl
      · exact ih now

/-- Calls that a refusal passes are all carried out. -/
theorem run_makeAll_passes
    {refusal : Refusal} {calls : List Call} (passes : refusal.Passes calls) (memory : Memory) :
    (memory.awaiting (some refusal)).run (makeAll calls) =
      (.ok (), (memory.after calls).awaiting (some (refusal.afterCalls calls))) := by
  induction calls generalizing memory refusal with
  | nil => rfl
  | cons call calls ih =>
      rw [Refusal.Passes, Call.ofOperation_cons] at passes
      rw [makeAll, run_bind, run_attempt_make_awaiting, Refusal.afterCalls, Call.ofOperation_cons]
      by_cases sameOperation : refusal.operation = call.operation
      · rw [if_pos sameOperation, List.length_cons] at passes
        have notNow : refusal.remaining ≠ 0 := by omega
        have passesRest : Refusal.Passes
            { refusal with remaining := refusal.remaining - 1 } calls :=
          Nat.le_sub_one_of_lt passes
        simp only [if_pos sameOperation, if_neg notNow, ih passesRest, Refusal.afterCalls,
          List.length_cons, after_cons, Nat.sub_sub, Nat.add_comm 1]
      · rw [if_neg sameOperation] at passes
        simp only [if_neg sameOperation, ih passes, Refusal.afterCalls, after_cons]

/-- Of calls that meet a refusal those before are carried out, and nothing comes behind it. -/
theorem run_makeAll_meets
    {refusal : Refusal} {calls before : List Call} {call : Call}
    (meets : refusal.Meets calls before call) (memory : Memory) :
    (memory.awaiting (some refusal)).run (makeAll calls) =
      (.error (.storage call.path refusal.fault),
        ((memory.after before).awaiting none).record (.refused refusal.operation call.path)) := by
  rcases meets with ⟨⟨rest, rfl⟩, sameOperation, waited⟩
  have isNow : (refusal.afterCalls before).remaining = 0 := by
    rw [Refusal.afterCalls, waited, Nat.sub_self]
  have isOperation : (refusal.afterCalls before).operation = call.operation := sameOperation.symm
  rw [run_makeAll_append, run_makeAll_passes (Nat.le_of_eq waited)]
  simp only [makeAll, run_bind, run_attempt_make_awaiting, if_pos isOperation, if_pos isNow]
  rfl

/-- Calls that are all carried out leave behind what they do. -/
theorem after_of_run_makeAll
    {memory now : Memory} {refusal : Option Refusal} {calls : List Call}
    (done : (memory.awaiting refusal).run (makeAll calls) = (.ok (), now)) :
    ∃ later, now = (memory.after calls).awaiting later := by
  cases refusal with
  | none =>
      rw [run_makeAll] at done
      exact ⟨_, (Prod.mk.inj done).2.symm⟩
  | some refusal =>
      rcases refusal.passes_or_meets calls with passes | ⟨before, call, meets⟩
      · rw [run_makeAll_passes passes] at done
        exact ⟨_, (Prod.mk.inj done).2.symm⟩
      · rw [run_makeAll_meets meets] at done
        cases (Prod.mk.inj done).1

/-! ## What programs follow -/

/--
A program does nothing but make calls, which the memory at its start decides, and gives a result
when they are all carried out; `writes` are those of its calls that write a file.
-/
def Follows {α : Type} (program : ExceptT Error (StateM Memory) α) (result : α)
    (writes : List Call) : Prop :=
  ∀ start : Memory, ∃ calls, Call.ofOperation .write calls = writes ∧
    ∀ refusal, (start.awaiting refusal).run program =
      (start.awaiting refusal).run (makeAll calls >>= fun _ => pure result)

namespace Follows

variable {α β : Type}

theorem pure {result : α} : Follows (Pure.pure result) result [] :=
  fun _ => ⟨[], rfl, fun _ => rfl⟩

/--
A program that goes on behind another makes the calls of both.  Those of the second are decided by
the memory that the calls of the first have left.
-/
theorem bind
    {program : ExceptT Error (StateM Memory) α} {next : α → ExceptT Error (StateM Memory) β}
    {middle : α} {result : β} {early late : List Call}
    (first : Follows program middle early) (rest : Follows (next middle) result late) :
    Follows (program >>= next) result (early ++ late) := by
  intro start
  rcases first start with ⟨earlyCalls, rfl, runFirst⟩
  rcases rest (start.after earlyCalls) with ⟨lateCalls, rfl, runRest⟩
  refine ⟨earlyCalls ++ lateCalls, Call.ofOperation_append _ _ _, ?_⟩
  intro refusal
  rw [run_bind, runFirst, run_bind, run_bind, run_makeAll_append]
  generalize ends : (start.awaiting refusal).run (makeAll earlyCalls) = ending
  rcases ending with ⟨_ | _, now⟩
  · rfl
  · rcases after_of_run_makeAll ends with ⟨later, rfl⟩
    exact (runRest later).trans (run_bind _ _ _)

/-- Another result is given without a further call. -/
theorem map
    {program : ExceptT Error (StateM Memory) α} {result : α} {writes : List Call}
    (follows : Follows program result writes) (change : α → β) :
    Follows (program >>= fun value => Pure.pure (change value)) (change result) writes := by
  have inTwoParts :
      Follows (program >>= fun value => Pure.pure (change value)) (change result) (writes ++ []) :=
    follows.bind pure
  rwa [List.append_nil] at inTwoParts

/-- Asking for a directory is no call; the answer may decide which calls come next. -/
theorem isDir
    {path : Path} {next : Bool → ExceptT Error (StateM Memory) β} {result : β}
    {writes : List Call}
    (yes : Follows (next true) result writes) (no : Follows (next false) result writes) :
    Follows (liftM (Storage.isDir path : StateM Memory Bool) >>= next) result writes := by
  intro start
  have answer (refusal : Option Refusal) :
      (start.awaiting refusal).run (liftM (Storage.isDir path : StateM Memory Bool) >>= next) =
        (start.awaiting refusal).run (next (start.hasDir path.components)) := by
    rw [run_bind, run_isDir]
    rfl
  simp only [answer]
  cases start.hasDir path.components with
  | true => exact yes start
  | false => exact no start

/-- Item by item, a program makes the calls of each. -/
theorem mapM
    {program : α → ExceptT Error (StateM Memory) β} {result : α → β} {write : α → Call}
    (each : ∀ item, Follows (program item) (result item) [write item]) (items : List α) :
    Follows (items.mapM program) (items.map result) (items.map write) := by
  induction items with
  | nil => exact .pure
  | cons first others ih =>
      rw [List.mapM_cons]
      exact (each first).bind (ih.map (result first :: ·))

/-- A single call is made, and it counts if it writes. -/
theorem call (call : Call) :
    Follows (Storage.attempt call.path (make call)) () (Call.ofOperation .write [call]) := by
  intro start
  refine ⟨[call], rfl, fun refusal => ?_⟩
  rw [makeAll, makeAll, run_bind, run_bind]
  rcases (start.awaiting refusal).run (Storage.attempt call.path (make call)) with ⟨_ | _, now⟩
  · rfl
  · rfl

theorem createDirs (path : Path) :
    Follows (Storage.attempt path (Storage.createDirs (m := StateM Memory) path)) () [] :=
  .call (.createDirs path)

theorem removeDir (path : Path) :
    Follows (Storage.attempt path (Storage.removeDir (m := StateM Memory) path)) () [] :=
  .call (.removeDir path)

theorem write (path : Path) (content : ByteArray) :
    Follows (Storage.attempt path (Storage.write (m := StateM Memory) path content)) ()
      [.write path content] :=
  .call (.write path content)

end Follows

end Memory

end ApiShapes
