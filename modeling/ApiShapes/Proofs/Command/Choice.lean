import ApiShapes.Command.Run
import ApiShapes.Proofs.Storage.Questions

/-!
# What an invocation comes down to

Generating and clearing get to their settings in two ways: generating always has a schema whose
settings count, clearing has one only if it is named.  `Invocation.choose` is what they have in
common when both are for one schema.  Main statements: both tasks choose first and then work with
the settings that were chosen, and choosing only asks; it fails when the text of the schema cannot
be had.
-/

namespace ApiShapes

open Workspace

section Tasks

variable {m : Type → Type} [Monad m] [Workspace m]

/-- The settings for the schema in a file, and the schema. -/
def Settings.forFile (settings : Settings) (path base : Path) :
    ExceptT Error m (Settings × Schema) := do
  let schema ← Schema.ofFile path
  let chosen ← settings.forSchema schema base
  pure (chosen, schema)

namespace Command

/-- The settings of an invocation that is for the schema in a file, and the schema. -/
def Invocation.choose (invocation : Invocation) (path : Path) :
    ExceptT Error m (Settings × Schema) := do
  let base ← invocation.base
  let settings ← invocation.settings base
  settings.forFile path base

/-- The settings of an invocation that is for no schema. -/
def Invocation.chooseAlone (invocation : Invocation) : ExceptT Error m Settings := do
  let base ← invocation.base
  invocation.settings base

/-- Generates the files and says how many. -/
def generateReport (chosen : Settings × Schema) : ExceptT Error m String := do
  let written ← Output.generate chosen.1 chosen.2
  pure ("Generated " ++ toString written.length ++ " files\n")

/-- Removes the output directory and says nothing. -/
def clearReport (settings : Settings) : ExceptT Error m String := do
  Output.clear settings
  pure ""

variable [LawfulMonad m]

/-- Generating for a file chooses the settings and then generates. -/
theorem generateFor_eq (path : Path) (settings : Settings) (base : Path) :
    (Output.generateFor path settings base : ExceptT Error m (List Path)) =
      settings.forFile path base >>= fun chosen => Output.generate chosen.1 chosen.2 := by
  simp only [Output.generateFor, Settings.forFile, bind_assoc, pure_bind]

section Run

variable {invocation : Invocation} {path : Path}

/-- An invocation that generates chooses first and then works. -/
theorem run_of_generate (isTask : invocation.task = .generate path) :
    (invocation.run : ExceptT Error m String) = invocation.choose path >>= generateReport := by
  simp only [Invocation.run, isTask, generateTask, generateFor_eq, Invocation.choose, bind_assoc]
  rfl

/-- An invocation that clears for a schema chooses as one that generates does, and then clears. -/
theorem run_of_clear (isTask : invocation.task = .clear (some path)) :
    (invocation.run : ExceptT Error m String) =
      invocation.choose path >>= fun chosen => clearReport chosen.1 := by
  simp only [Invocation.run, isTask, clearTask, Invocation.choose, Settings.forFile, bind_assoc,
    pure_bind]
  rfl

/-- An invocation that clears for no schema goes by its options alone. -/
theorem run_of_clearAlone (isTask : invocation.task = .clear none) :
    (invocation.run : ExceptT Error m String) = invocation.chooseAlone >>= clearReport := by
  simp only [Invocation.run, isTask, clearTask, Invocation.chooseAlone, bind_assoc, pure_bind]
  rfl

end Run

end Command

end Tasks

section Questions

variable {σ : Type} [Workspace (StateM σ)]

/-- A file has no text to read: the storage refuses to read it, or its bytes are no text. -/
def Schema.Unreadable (path : Path) (state : σ) (fault : StorageFault) : Prop :=
  match ((Workspace.read path : StateM σ (Except StorageFault ByteArray)) state).1 with
  | .error refused => fault = refused
  | .ok content => String.fromUTF8? content = none ∧ fault = .invalidText

/-- A schema that cannot be read is a fault of the storage at its path. -/
theorem Schema.Unreadable.ofFile
    {path : Path} {state : σ} {fault : StorageFault} (unreadable : Unreadable path state fault) :
    (run state (Schema.ofFile path)).1 = .error (.storage path fault) := by
  rw [Unreadable] at unreadable
  have answer : run state (Storage.attempt path (Workspace.read path)) =
      ((Workspace.read path : StateM σ (Except StorageFault ByteArray)) state).map
        (·.mapError (.storage path)) id := rfl
  rw [Schema.ofFile, run_bind, answer]
  generalize (Workspace.read path : StateM σ (Except StorageFault ByteArray)) state = read
    at unreadable
  rcases read with ⟨refused | content, now⟩
  · obtain rfl : fault = refused := unreadable
    rfl
  · obtain ⟨noText, rfl⟩ :
        String.fromUTF8? content = none ∧ fault = StorageFault.invalidText := unreadable
    have isRead : Prod.map (Except.mapError (Error.storage path)) id (Except.ok content, now) =
        (.ok content, now) := rfl
    simp only [isRead, noText]
    rfl

theorem Settings.forFile_fails
    {path : Path} {start : σ} {fault : StorageFault}
    (unreadable : Schema.Unreadable path start fault) (settings : Settings) (base : Path) :
    Fails start (settings.forFile path base) :=
  .first ⟨_, unreadable.ofFile⟩ _

variable (keep : QuestionsKeep σ)

include keep

/-- Reading a schema changes nothing. -/
theorem Schema.ofFile_onlyAsks (path : Path) :
    OnlyAsks (Schema.ofFile path : ExceptT Error (StateM σ) Schema) := by
  refine .bind (.mapError (keep.read path) _) fun content => ?_
  cases String.fromUTF8? content with
  | none =>
      intro start
      rfl
  | some text => exact .ofExcept _

theorem Settings.forFile_onlyAsks (settings : Settings) (path base : Path) :
    OnlyAsks (settings.forFile path base : ExceptT Error (StateM σ) (Settings × Schema)) :=
  .bind (Schema.ofFile_onlyAsks keep path) fun _ => .bind (.ofExcept _) fun _ => .pure _

namespace Command

variable (invocation : Invocation)

theorem base_onlyAsks : OnlyAsks (invocation.base : ExceptT Error (StateM σ) Path) := by
  rw [Invocation.base]
  cases invocation.baseDir with
  | none => exact .mapError keep.currentDir _
  | some dir => exact .pure dir

theorem chooseAlone_onlyAsks :
    OnlyAsks (invocation.chooseAlone : ExceptT Error (StateM σ) Settings) :=
  .bind (base_onlyAsks keep invocation) fun _ => .ofExcept _

/-- Choosing the settings for a schema changes nothing. -/
theorem choose_onlyAsks (path : Path) :
    OnlyAsks (invocation.choose path : ExceptT Error (StateM σ) (Settings × Schema)) :=
  .bind (base_onlyAsks keep invocation) fun base =>
    .bind (.ofExcept _) fun settings => settings.forFile_onlyAsks keep path base

/-- Where the schema cannot be read, no settings are chosen. -/
theorem choose_fails
    {path : Path} {start : σ} {fault : StorageFault}
    (unreadable : Schema.Unreadable path start fault) : Fails start (invocation.choose path) :=
  .behind (base_onlyAsks keep invocation) fun base =>
    .behind (.ofExcept _) fun settings => settings.forFile_fails unreadable base

end Command

end Questions

end ApiShapes
