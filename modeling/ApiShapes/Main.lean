import ApiShapes.Command.Run

/-!
# The program

The program works on the disk: this module gives the disk as a workspace, and everything else about
a run is `Command.program`.
-/

namespace ApiShapes.Disk

/-- The number of an error of the operating system, which may be given as a negative one. -/
def errorNumber (code : UInt32) : Nat :=
  if code.toNat < 0x80000000 then code.toNat else (-code).toNat

/-- The refusal that a number of the operating system stands for. -/
def faultOfNumber (error : IO.Error) : Nat → StorageFault
  | 2 => .notFound
  | 16 => .busy
  | 17 => .alreadyExists
  | 20 => .notADirectory
  | 21 => .isADirectory
  | 22 => .invalidArgument
  | 36 => .nameTooLong
  | 39 => .notEmpty
  | _ => .other (toString error)

/-- Why an operation on the disk was refused. -/
def fault (error : IO.Error) : StorageFault :=
  match error with
  | .noFileOrDirectory _ code _ => faultOfNumber error (errorNumber code)
  | .alreadyExists _ code _ => faultOfNumber error (errorNumber code)
  | .inappropriateType _ code _ => faultOfNumber error (errorNumber code)
  | .invalidArgument _ code _ => faultOfNumber error (errorNumber code)
  | .unsatisfiedConstraints code _ => faultOfNumber error (errorNumber code)
  | .resourceBusy code _ => faultOfNumber error (errorNumber code)
  | other => .other (toString other)

/-- An operation on the disk with its refusal as a result. -/
def attempt {α : Type} (operation : IO α) : BaseIO (Except StorageFault α) := do
  match ← operation.toBaseIO with
  | .ok result => pure (.ok result)
  | .error error => pure (.error (fault error))

/-- An operation at a path; no name on the disk holds the character zero. -/
def attemptAt {α : Type} (path : Path) (operation : String → IO α) :
    BaseIO (Except StorageFault α) :=
  if '\x00' ∈ path.text.toList then pure (.error .nulInName)
  else if path.text = "" then pure (.error .notFound)
  else attempt (operation path.text)

/-- Creates a directory inside one that exists. -/
def createDir (path : Path) : BaseIO (Except StorageFault Unit) :=
  attemptAt path fun text => IO.FS.createDir text

/-- Whether a path leads to a directory: only there does the name of one dot exist. -/
def isDir (path : Path) : BaseIO Bool := do
  match ← createDir ⟨path.text ++ "/."⟩ with
  | .error .alreadyExists => pure (path.text ≠ "")
  | _ => pure false

/-- Removes what a directory holds, by its real path: the path given may lead through an entry. -/
def removeEntries (path : Path) : BaseIO (Except StorageFault Unit) :=
  attemptAt path fun text => do
    for entry in ← (← IO.FS.realPath text).readDir do
      if (← entry.path.symlinkMetadata).type == .dir then IO.FS.removeDirAll entry.path
      else IO.FS.removeFile entry.path

/-- Removes a directory that was emptied; it stays if the path led there through an entry. -/
def removeEmptyDir (path : Path) : BaseIO (Except StorageFault Unit) := do
  match ← attemptAt path fun text => IO.FS.removeDir text with
  | .error .notFound => pure (.ok ())
  | outcome => pure outcome

/-- Removes a directory and all that it holds, but of a link to a directory only the link. -/
def removeDir (path : Path) : BaseIO (Except StorageFault Unit) := do
  if ← isDir path then
    match ← attemptAt path fun text => IO.FS.removeFile text with
    | .ok () => pure (.ok ())
    | .error _ =>
        match ← removeEntries path with
        | .ok () => removeEmptyDir path
        | refused => pure refused
  else
    attemptAt path fun text => IO.FS.removeDir text

/-- The disk as a workspace. -/
instance : Workspace BaseIO where
  isDir := isDir
  createDirs := Storage.createDirsWith isDir createDir
  removeDir := removeDir
  write path content := attemptAt path fun text => IO.FS.writeBinFile text content
  read path := attemptAt path fun text => IO.FS.readBinFile text
  currentDir := attempt do return ⟨toString (← IO.currentDir)⟩

end ApiShapes.Disk

/-- Carries out what the arguments ask for. -/
def main (args : List String) : IO UInt32 := do
  let report ← (ApiShapes.Command.program args : BaseIO ApiShapes.Command.Report)
  IO.print report.output
  IO.eprint report.errorOutput
  return report.code.toUInt32
