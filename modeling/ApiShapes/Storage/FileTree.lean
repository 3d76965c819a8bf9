import ApiShapes.Storage.Basic

/-!
# A file tree

A tree of directories and files held in memory, in which paths are followed as a file system
follows them: from the root or from the current directory, one part after the other, each through a
directory that exists.  A file is therefore no directory to pass through, a missing directory is
noticed where it is, and operations that fail half-way leave what they did.
-/

namespace ApiShapes

/-- What stands at a place of a tree. -/
inductive FileNode where
  | directory
  | file (content : ByteArray)

/-- Whether a directory stands there. -/
def FileNode.isDirectory : FileNode → Bool
  | directory => true
  | file _ => false

/-- The names that lead from the root of a tree to a place. -/
abbrev TreePlace := List String

/-- A tree with a current directory.  The root always exists and is not listed. -/
structure FileTree where
  nodes : List (TreePlace × FileNode)
  current : TreePlace

namespace FileTree

/-- The tree of a root without entries. -/
def empty : FileTree := ⟨[], []⟩

/-- What stands at a place. -/
def node? (tree : FileTree) (place : TreePlace) : Option FileNode :=
  if place = [] then some .directory else tree.nodes.lookup place

/-- Sets what stands at a place. -/
def insert (tree : FileTree) (place : TreePlace) (node : FileNode) : FileTree :=
  { tree with nodes := tree.nodes.filter (·.1 ≠ place) ++ [(place, node)] }

/-- Drops a place, but nothing below it. -/
def erase (tree : FileTree) (place : TreePlace) : FileTree :=
  { tree with nodes := tree.nodes.filter (·.1 ≠ place) }

/-- Drops everything below a place, but not the place. -/
def eraseBelow (tree : FileTree) (place : TreePlace) : FileTree :=
  { tree with nodes := tree.nodes.filter fun (other, _) =>
      other = place ∨ !place.isPrefixOf other }

/-! ## Following a path -/

/-- The longest name of an entry, in bytes. -/
def nameLimit : Nat := 255

/-- The longest path, in bytes. -/
def pathLimit : Nat := 4095

/--
How far a path has been followed.  The current directory is held open, and with it the directories
around it: dots lead along them even after their removal.
-/
structure Position where
  place : TreePlace
  held : Bool

/-- Where a path starts: at the root or in the current directory. -/
def start (tree : FileTree) (path : Path) : Position :=
  if path.isAbsolute then ⟨[], false⟩ else ⟨tree.current, true⟩

/-- What stands at a position; what is held is a directory. -/
def nodeAt? (tree : FileTree) (position : Position) : Option FileNode :=
  if position.held then some .directory else tree.node? position.place

/--
The position that a part leads to from a directory; whether anything stands there is left open.  A
held directory that was removed has no entries.
-/
def step (tree : FileTree) (position : Position) (part : String) :
    Except StorageFault Position :=
  match tree.nodeAt? position with
  | none => .error .notFound
  | some (.file _) => .error .notADirectory
  | some .directory =>
      if part = "." then .ok position
      else if part = ".." then .ok { position with place := position.place.dropLast }
      else if !(tree.node? position.place).any (·.isDirectory) then .error .notFound
      else if nameLimit < part.utf8ByteSize then .error .nameTooLong
      else .ok ⟨position.place ++ [part], false⟩

/-- The parts of a path that lead somewhere. -/
def steps (path : Path) : List String :=
  path.parts.filter (· ≠ "")

/-- Whether a path ends with a slash, which only directories may. -/
def endsWithSlash (path : Path) : Bool :=
  path.text.toList.getLast? == some '/'

/-- Follows parts from where a path starts; only what comes before the last part has to exist. -/
def follow (tree : FileTree) (path : Path) (parts : List String) :
    Except StorageFault Position :=
  if '\x00' ∈ path.text.toList then .error .nulInName
  else if path.text = "" then .error .notFound
  else if pathLimit < path.text.utf8ByteSize then .error .nameTooLong
  else parts.foldlM tree.step (tree.start path)

/-- The position that a path leads to. -/
def locate (tree : FileTree) (path : Path) : Except StorageFault Position :=
  tree.follow path (steps path)

/-- The place that a path leads to and what stands there. -/
def find (tree : FileTree) (path : Path) : Except StorageFault (TreePlace × FileNode) := do
  let position ← tree.locate path
  match tree.nodeAt? position with
  | none => throw .notFound
  | some .directory => pure (position.place, .directory)
  | some (.file content) =>
      if endsWithSlash path then throw .notADirectory else pure (position.place, .file content)

/-! ## Operations -/

/-- Whether a path leads to a directory. -/
def isDir (tree : FileTree) (path : Path) : Bool :=
  match tree.find path with
  | .ok (_, .directory) => true
  | _ => false

/-- Creates a directory inside one that exists. -/
def createDir (tree : FileTree) (path : Path) : FileTree × Except StorageFault Unit :=
  match tree.locate path with
  | .error fault => (tree, .error fault)
  | .ok position =>
      if (tree.nodeAt? position).isSome then (tree, .error .alreadyExists)
      else (tree.insert position.place .directory, .ok ())

/--
Removes a directory that was emptied.  The root and the two dot names cannot be removed; what is no
longer there need not be.
-/
def removeEmptyDir (tree : FileTree) (path : Path) : FileTree × Except StorageFault Unit :=
  match tree.locate path, (steps path).getLast? with
  | .error .notFound, _ => (tree, .ok ())
  | .error fault, _ => (tree, .error fault)
  | .ok _, none => (tree, .error .busy)
  | .ok _, some "." => (tree, .error .invalidArgument)
  | .ok _, some ".." => (tree, .error .notEmpty)
  | .ok position, some _ => (tree.erase position.place, .ok ())

/-- Removes a directory and all that it holds. -/
def removeDir (tree : FileTree) (path : Path) : FileTree × Except StorageFault Unit :=
  match tree.find path with
  | .error fault => (tree, .error fault)
  | .ok (_, .file _) => (tree, .error .notADirectory)
  | .ok (place, .directory) => (tree.eraseBelow place).removeEmptyDir path

/-- The place of a file that can be written; a path that ends with a slash names none. -/
def locateFile (tree : FileTree) (path : Path) : Except StorageFault TreePlace := do
  if endsWithSlash path then
    let outer ← tree.follow path (steps path).dropLast
    let _ ← tree.step outer "."
    throw .isADirectory
  let position ← tree.locate path
  if (tree.nodeAt? position).any (·.isDirectory) then throw .isADirectory
  pure position.place

/-- Writes a file into a directory that exists. -/
def write (tree : FileTree) (path : Path) (content : ByteArray) :
    FileTree × Except StorageFault Unit :=
  match tree.locateFile path with
  | .error fault => (tree, .error fault)
  | .ok place => (tree.insert place (.file content), .ok ())

/-- The content of a file. -/
def read (tree : FileTree) (path : Path) : Except StorageFault ByteArray := do
  match ← tree.find path with
  | (_, .directory) => throw .isADirectory
  | (_, .file content) => pure content

/-- The current directory as an absolute path, unless it was removed. -/
def currentDir (tree : FileTree) : Except StorageFault Path :=
  match tree.node? tree.current with
  | some .directory => .ok (.ofComponents (.root :: tree.current.map .normal))
  | _ => .error .notFound

/-- Creates a directory and those around it that are missing. -/
def createDirs (path : Path) : StateM FileTree (Except StorageFault Unit) :=
  Storage.createDirsWith (fun path tree => (tree.isDir path, tree))
    (fun path tree => (tree.createDir path).swap) path

/-- The tree as a workspace. -/
instance : Workspace (StateM FileTree) where
  isDir path := fun tree => (tree.isDir path, tree)
  createDirs := createDirs
  removeDir path := fun tree => (tree.removeDir path).swap
  write path content := fun tree => (tree.write path content).swap
  read path := fun tree => (tree.read path, tree)
  currentDir := fun tree => (tree.currentDir, tree)

/--
Everything below a place, by paths relative to it in order; a directory is shown by a slash at the
end of its path.
-/
def listing (tree : FileTree) (place : TreePlace) : List (String × FileNode) :=
  let below := tree.nodes.filterMap fun (other, node) =>
    if place.isPrefixOf other ∧ other ≠ place then
      let name := "/".intercalate (other.drop place.length)
      some (if node.isDirectory then name ++ "/" else name, node)
    else
      none
  below.mergeSort fun a b => decide (a.1 ≤ b.1)

end FileTree

end ApiShapes
