import ApiShapes.Error

/-!
# Storages

Classes are written to a storage through four operations, and to a workspace, which also holds the
schema, through two more.  An operation that is refused says why; the caller adds the path.  A
storage need not be a disk, so that classes can also be written to a value in memory.
-/

namespace ApiShapes

/-- The operations that generating files needs. -/
class Storage (m : Type → Type) where
  /-- Whether a path leads to a directory. -/
  isDir : Path → m Bool
  /-- Creates a directory and those around it that are missing. -/
  createDirs : Path → m (Except StorageFault Unit)
  /-- Removes a directory and all that it holds. -/
  removeDir : Path → m (Except StorageFault Unit)
  /-- Writes a file, in the place of one that is there. -/
  write : Path → ByteArray → m (Except StorageFault Unit)

/-- A storage with files to read and a directory that relative paths start from. -/
class Workspace (m : Type → Type) extends Storage m where
  /-- The content of a file. -/
  read : Path → m (Except StorageFault ByteArray)
  /-- The directory that relative paths start from. -/
  currentDir : m (Except StorageFault Path)

/-- An operation on `path` whose refusal is an error. -/
def Storage.attempt {m : Type → Type} [Monad m] {α : Type} (path : Path)
    (operation : m (Except StorageFault α)) : ExceptT Error m α :=
  .mk do return (← operation).mapError (.storage path)

section CreateDirs

variable {m : Type → Type} [Monad m] (isDir : Path → m Bool)
  (createDir : Path → m (Except StorageFault Unit))

/-- Creates a directory inside one that exists, unless it is there already. -/
def Storage.ensureDir (path : Path) : m (Except StorageFault Unit) := do
  match ← createDir path with
  | .ok () => pure (.ok ())
  | .error fault => pure (if ← isDir path then .ok () else .error fault)

/--
Creates the directory of `path`; `outer` are its components but the last, in reverse.  The
directories around it are only turned to when it cannot be created for want of them.
-/
def Storage.ensureDirs (path : Path) : List Path.Component → m (Except StorageFault Unit)
  | [] => ensureDir isDir createDir path
  | last :: outer => do
      match ← createDir path with
      | .ok () => pure (.ok ())
      | .error .notFound =>
          match ← ensureDirs (.ofComponents (outer.reverse ++ [last])) outer with
          | .ok () => ensureDir isDir createDir path
          | .error fault => pure (.error fault)
      | .error fault => pure (if ← isDir path then .ok () else .error fault)

/-- Creates a directory and those around it that are missing, one by one. -/
def Storage.createDirsWith (path : Path) : m (Except StorageFault Unit) :=
  match path.components.reverse with
  | [] => pure (.ok ())
  | _ :: outer => ensureDirs isDir createDir path outer

end CreateDirs

end ApiShapes
