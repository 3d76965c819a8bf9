import ApiShapes.Proofs.Storage.Contents

/-!
# The calls that a program makes

A memory keeps a log of the calls that would change it, those that it refuses among them.  `Makes`
says of which kind the calls of a program are, whatever memory it runs on and wherever it fails.
Main statements: every operation makes the one call that it is for, and a program makes the calls of
its parts.
-/

namespace ApiShapes

/-- The directory that a call is to remove. -/
def Call.removed? : Call → Option Path
  | removeDir path => some path
  | refused .removeDir path => some path
  | _ => none

namespace Memory

/-- A call is logged behind the earlier ones. -/
theorem log_record (memory : Memory) (entry : Call) :
    (memory.record entry).log = memory.log ++ [entry] := rfl

/-- The log grows by one entry: by that of the call or by that of its refusal. -/
theorem call_log
    {change : Memory → Memory} (keepsLog : ∀ memory, (change memory).log = memory.log)
    (operation : Operation) (path : Path) (entry : Call) (memory : Memory) :
    ∃ logged, (logged = entry ∨ logged = .refused operation path) ∧
      (call operation path entry change memory).2.log = memory.log ++ [logged] := by
  rw [call]
  cases memory.refusal with
  | none => exact ⟨entry, .inl rfl, by rw [log_record, keepsLog]⟩
  | some refusal =>
      by_cases sameOperation : refusal.operation = operation
      · by_cases isNow : refusal.remaining = 0
        · refine ⟨_, .inr rfl, ?_⟩
          simp only [sameOperation, isNow, if_true, log_record]
        · refine ⟨entry, .inl rfl, ?_⟩
          simp only [sameOperation, isNow, if_true, if_false, log_record, keepsLog]
      · refine ⟨entry, .inl rfl, ?_⟩
        simp only [sameOperation, if_false, log_record, keepsLog]

/-- All calls that a program makes are of a kind. -/
def Makes {α : Type} (kind : Call → Prop) (program : ExceptT Error (StateM Memory) α) : Prop :=
  ∀ memory : Memory, ∃ added,
    (memory.run program).2.log = memory.log ++ added ∧ ∀ call ∈ added, kind call

namespace Makes

variable {α β : Type} {kind : Call → Prop}

/-- A result without a call makes none. -/
theorem pure {result : α} : Makes kind (Pure.pure result) := by
  intro memory
  refine ⟨[], ?_, by simp⟩
  rw [run_pure, List.append_nil]

/-- A computation that uses no storage makes no calls. -/
theorem ofExcept {result : Except Error α} : Makes kind (liftM result) := by
  intro memory
  refine ⟨[], ?_, by simp⟩
  rw [run_except, List.append_nil]

/-- Asking for a directory is no call. -/
theorem isDir {path : Path} : Makes kind (liftM (Storage.isDir path : StateM Memory Bool)) := by
  intro memory
  refine ⟨[], ?_, by simp⟩
  rw [run_isDir, List.append_nil]

/-- A program makes the calls of its parts. -/
theorem bind
    {program : ExceptT Error (StateM Memory) α} {next : α → ExceptT Error (StateM Memory) β}
    (first : Makes kind program) (rest : ∀ result, Makes kind (next result)) :
    Makes kind (program >>= next) := by
  intro memory
  rcases first memory with ⟨early, firstLog, earlyKind⟩
  rw [run_bind]
  generalize memory.run program = ending at firstLog
  rcases ending with ⟨_ | result, now⟩
  · exact ⟨early, firstLog, earlyKind⟩
  · rcases rest result now with ⟨late, restLog, lateKind⟩
    refine ⟨early ++ late, ?_, List.forall_mem_append.mpr ⟨earlyKind, lateKind⟩⟩
    rw [restLog, firstLog, List.append_assoc]

/-- Item by item, only calls of the kind are made if each item makes no others. -/
theorem mapM
    {program : α → ExceptT Error (StateM Memory) β} (each : ∀ item, Makes kind (program item))
    (items : List α) : Makes kind (items.mapM program) := by
  induction items with
  | nil => exact .pure
  | cons first others ih =>
      rw [List.mapM_cons]
      exact (each first).bind fun _ => ih.bind fun _ => .pure

/-- A call is logged as itself or as refused, so both have to be of the kind. -/
theorem call
    {operation : Operation} {path : Path} {entry : Call} {change : Memory → Memory}
    (keepsLog : ∀ memory, (change memory).log = memory.log)
    (isKind : kind entry) (refused : kind (.refused operation path)) :
    Makes kind (Storage.attempt path (Memory.call operation path entry change)) := by
  intro memory
  rcases call_log keepsLog operation path entry memory with ⟨logged, isLogged, grows⟩
  refine ⟨[logged], ?_, ?_⟩
  · rw [run_attempt]
    exact grows
  · rw [List.forall_mem_singleton]
    rcases isLogged with rfl | rfl
    · exact isKind
    · exact refused

theorem createDirs {path : Path} (isKind : kind (.createDirs path))
    (refused : kind (.refused .createDirs path)) :
    Makes kind (Storage.attempt path (Storage.createDirs (m := StateM Memory) path)) :=
  .call (fun _ => rfl) isKind refused

theorem removeDir {path : Path} (isKind : kind (.removeDir path))
    (refused : kind (.refused .removeDir path)) :
    Makes kind (Storage.attempt path (Storage.removeDir (m := StateM Memory) path)) :=
  .call (fun _ => rfl) isKind refused

theorem write {path : Path} {content : ByteArray} (isKind : kind (.write path content))
    (refused : kind (.refused .write path)) :
    Makes kind (Storage.attempt path (Storage.write (m := StateM Memory) path content)) :=
  .call (fun _ => rfl) isKind refused

end Makes

end Memory

end ApiShapes
