import ApiShapes.Storage.Basic

/-!
# A storage in memory

Directories are a set of paths and files a map from paths to contents, both compared by their
components.  The storage keeps a log of the calls that would change it, and it can be told to refuse
a later call, which then changes nothing.
-/

namespace ApiShapes

/-- The components of a path, by which places in memory are told apart. -/
abbrev Location := List Path.Component

/-- The operations that change a storage. -/
inductive Operation where
  | createDirs
  | removeDir
  | write
  deriving Repr, DecidableEq

/-- A call as it stands in the log: an operation with its path and content, or a refused one. -/
inductive Call where
  | createDirs (path : Path)
  | removeDir (path : Path)
  | write (path : Path) (content : ByteArray)
  | refused (operation : Operation) (path : Path)

/-- A refusal to come: of the call of `operation` after `remaining` others of it. -/
structure Refusal where
  operation : Operation
  remaining : Nat
  fault : StorageFault
  deriving Repr, DecidableEq

/-- What is in memory: directories, files, the log of calls and the refusal to come. -/
structure Memory where
  dirs : List Location
  files : List (Location × ByteArray)
  log : List Call
  refusal : Option Refusal

namespace Memory

/-- The memory without directories and files. -/
def empty : Memory := ⟨[], [], [], none⟩

/-- Whether a place is a directory. -/
def hasDir (memory : Memory) (place : Location) : Bool :=
  decide (place ∈ memory.dirs)

/-- The content of the file at a place. -/
def file? (memory : Memory) (place : Location) : Option ByteArray :=
  memory.files.lookup place

/-- Adds a directory to a set of them. -/
def insertDir (place : Location) (dirs : List Location) : List Location :=
  if place ∈ dirs then dirs else dirs ++ [place]

/-- Sets the content at a place in a map of files. -/
def insertFile (place : Location) (content : ByteArray) :
    List (Location × ByteArray) → List (Location × ByteArray)
  | [] => [(place, content)]
  | file :: files =>
      if file.1 = place then (place, content) :: files
      else file :: insertFile place content files

/-- The places from the outermost directory down to the place itself. -/
def ancestors (place : Location) : List Location :=
  (List.range place.length).map fun count => place.take (count + 1)

/-- Adds a place and all around it to the directories. -/
def addDirs (memory : Memory) (place : Location) : Memory :=
  { memory with dirs := (ancestors place).foldl (fun dirs dir => insertDir dir dirs) memory.dirs }

/-- Drops all directories and files at a place or below it. -/
def dropBelow (memory : Memory) (place : Location) : Memory :=
  { memory with
    dirs := memory.dirs.filter fun dir => !place.isPrefixOf dir
    files := memory.files.filter fun file => !place.isPrefixOf file.1 }

/-- Sets the content of the file at a place, whose directory need not be there. -/
def putFile (memory : Memory) (place : Location) (content : ByteArray) : Memory :=
  { memory with files := insertFile place content memory.files }

/-- Adds a call to the log. -/
def record (memory : Memory) (call : Call) : Memory :=
  { memory with log := memory.log ++ [call] }

/-- Tells the memory to refuse the `count`-th call of an operation from now on. -/
def refuse (memory : Memory) (operation : Operation) (count : Nat) (fault : StorageFault) :
    Memory :=
  { memory with refusal := some ⟨operation, count - 1, fault⟩ }

/--
Makes a call: either it is the one to be refused, which is then recorded as such and nothing else
happens, or it is recorded and changes the memory.
-/
def call (operation : Operation) (path : Path) (entry : Call) (change : Memory → Memory)
    (memory : Memory) : Except StorageFault Unit × Memory :=
  match memory.refusal with
  | some refusal =>
      if refusal.operation = operation then
        if refusal.remaining = 0 then
          (.error refusal.fault, { memory with refusal := none }.record (.refused operation path))
        else
          let waiting := { refusal with remaining := refusal.remaining - 1 }
          (.ok (), (change { memory with refusal := some waiting }).record entry)
      else
        (.ok (), (change memory).record entry)
  | none => (.ok (), (change memory).record entry)

/-- The memory as a workspace: relative paths are not resolved, they stay as they are. -/
instance : Workspace (StateM Memory) where
  isDir path := fun memory => (memory.hasDir path.components, memory)
  createDirs path :=
    call .createDirs path (.createDirs path) (·.addDirs path.components)
  removeDir path :=
    call .removeDir path (.removeDir path) (·.dropBelow path.components)
  write path content :=
    call .write path (.write path content) (·.putFile path.components content)
  read path := fun memory =>
    (match memory.file? path.components with
      | some content => .ok content
      | none => .error (if memory.hasDir path.components then .isADirectory else .notFound), memory)
  currentDir := fun memory => (.ok .empty, memory)

/-- The directories as normalized paths, in order. -/
def dirPaths (memory : Memory) : List String :=
  (memory.dirs.map fun dir => (Path.ofComponents dir).text).mergeSort

/-- The files as normalized paths, in order. -/
def filePaths (memory : Memory) : List String :=
  (memory.files.map fun file => (Path.ofComponents file.1).text).mergeSort

end Memory

end ApiShapes
