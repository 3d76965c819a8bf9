import ApiShapes.Output
import ApiShapes.Proofs.Storage.Log

/-!
# What is removed

Removing a directory takes all that it holds along, so it matters which directories are removed.
Clearing and generating remove the output directory and no other.  In memory this is seen in the
log of the calls.  Over any storage it is seen by exchanging its removal: one that does the same to
the output directory, and to other directories whatever it likes, makes no difference.
-/

namespace ApiShapes

/-- A call removes no directory but the one at `path`. -/
def Call.RemovesAtMost (path : Path) (call : Call) : Prop :=
  ∀ removed, call.removed? = some removed → removed = path

/-- A storage with another way to remove directories. -/
@[reducible]
def Storage.withRemoval {m : Type → Type} (storage : Storage m)
    (removal : Path → m (Except StorageFault Unit)) : Storage m where
  isDir := storage.isDir
  createDirs := storage.createDirs
  removeDir := removal
  write := storage.write

namespace Output

open Memory

variable {settings : Settings}

/-- Clearing removes the output directory or nothing. -/
theorem clear_makes : Makes (Call.RemovesAtMost settings.outputDir) (clear settings) := by
  refine .bind .isDir fun isThere => ?_
  cases isThere with
  | false => exact .pure
  | true =>
      apply Makes.removeDir
      · rintro _ ⟨⟩
        rfl
      · rintro _ ⟨⟩
        rfl

theorem prepare_makes : Makes (Call.RemovesAtMost settings.outputDir) (prepare settings) := by
  apply Makes.createDirs <;> rintro _ ⟨⟩

/-- Writing a class creates directories and writes a file, and removes nothing. -/
theorem writeClass_makes (artifact : Artifact) :
    Makes (Call.RemovesAtMost settings.outputDir) (writeClass settings artifact) := by
  have putFile :
      Makes (Call.RemovesAtMost settings.outputDir)
        (do
          Storage.attempt (classPath settings artifact)
            (Storage.write (classPath settings artifact) (settings.file artifact).toUTF8)
          pure (classPath settings artifact)) := by
    refine .bind (.write ?_ ?_) fun _ => .pure <;> rintro _ ⟨⟩
  refine .bind .isDir fun isThere => ?_
  cases isThere with
  | true => exact putFile
  | false =>
      refine .bind (.createDirs ?_ ?_) fun _ => putFile <;> rintro _ ⟨⟩

/-- Generating removes no other directory than clearing does. -/
theorem generate_makes (schema : Schema) :
    Makes (Call.RemovesAtMost settings.outputDir) (generate settings schema) := by
  refine .bind .ofExcept fun classes => ?_
  refine .bind clear_makes fun _ => ?_
  refine .bind prepare_makes fun _ => ?_
  exact .mapM writeClass_makes classes

section AnyStorage

variable {m : Type → Type} [Monad m] {storage : Storage m}
  {removal : Path → m (Except StorageFault Unit)}

/-- Clearing uses the removal of a storage on the output directory only. -/
theorem clear_withRemoval
    (agrees : removal settings.outputDir = storage.removeDir settings.outputDir) :
    @clear m _ (storage.withRemoval removal) settings = @clear m _ storage settings := by
  have sameRemoval :
      @Storage.removeDir m (storage.withRemoval removal) settings.outputDir =
        @Storage.removeDir m storage settings.outputDir := agrees
  unfold clear
  rw [sameRemoval]
  rfl

theorem generate_withRemoval
    (agrees : removal settings.outputDir = storage.removeDir settings.outputDir) (schema : Schema) :
    @generate m _ (storage.withRemoval removal) settings schema =
      @generate m _ storage settings schema := by
  unfold generate
  rw [clear_withRemoval agrees]
  rfl

end AnyStorage

/-- Clearing and generating remove the output directory of the settings and no other. -/
structure RemovesOutputDirOnly (settings : Settings) : Prop where
  clear_logs : Makes (Call.RemovesAtMost settings.outputDir) (clear settings)
  generate_logs : ∀ schema, Makes (Call.RemovesAtMost settings.outputDir) (generate settings schema)
  clear_eq : ∀ {m : Type → Type} [Monad m] (storage : Storage m)
    (removal : Path → m (Except StorageFault Unit)),
    removal settings.outputDir = storage.removeDir settings.outputDir →
      @clear m _ (storage.withRemoval removal) settings = @clear m _ storage settings
  generate_eq : ∀ {m : Type → Type} [Monad m] (storage : Storage m)
    (removal : Path → m (Except StorageFault Unit)),
    removal settings.outputDir = storage.removeDir settings.outputDir → ∀ schema,
      @generate m _ (storage.withRemoval removal) settings schema =
        @generate m _ storage settings schema

/-- Whatever the storage and however it fails, no directory but the output directory is removed. -/
theorem removesOutputDirOnly (settings : Settings) : RemovesOutputDirOnly settings where
  clear_logs := clear_makes
  generate_logs := generate_makes
  clear_eq _ _ agrees := clear_withRemoval agrees
  generate_eq _ _ agrees := generate_withRemoval agrees

end Output

end ApiShapes
