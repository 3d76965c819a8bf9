import ApiShapes.Text.Split

/-!
# File paths

A path is kept as it was written.  What it means is the sequence of its components: slashes separate
them, empty parts and single dots count for nothing, except that a single dot at the very start of a
relative path is a component of its own.  Two dots are kept, because what they lead to depends on
the directories that exist.

These are the paths of Unix systems, and of those the ones that are valid UTF-8.  A slash is the only
separator, a backslash is a character like any other, and there are no drive letters or other
prefixes: an absolute path is one that begins with a slash.
-/

namespace ApiShapes

/-- A path as it was written. -/
structure Path where
  text : String
  deriving Repr, DecidableEq

namespace Path

/-- One step of a path. -/
inductive Component where
  | root
  | current
  | parent
  | normal (name : String)
  deriving Repr, DecidableEq

/-- How a component is written; the root is empty, since a slash follows it. -/
def Component.text : Component → String
  | root => ""
  | current => "."
  | parent => ".."
  | normal name => name

/-- Whether a component is a name. -/
def Component.isNormal : Component → Bool
  | normal _ => true
  | _ => false

/-- The path without components. -/
def empty : Path := ⟨""⟩

/-- Whether a path starts at the root. -/
def isAbsolute (path : Path) : Bool :=
  path.text.toList.head? == some '/'

/-- The parts of a path between its slashes. -/
def parts (path : Path) : List String :=
  (Text.splitAtEach (· == '/') path.text.toList).map String.ofList

/-- The component that a part between slashes stands for, if any. -/
def componentOfPart (part : String) : Option Component :=
  if part = "" ∨ part = "." then none
  else if part = ".." then some .parent
  else some (.normal part)

/-- The component at the very start of a path: the root, or a single dot. -/
def leading (path : Path) : List Component :=
  if path.isAbsolute then [.root]
  else if path.parts.head? = some "." then [.current]
  else []

/-- The components of a path. -/
def components (path : Path) : List Component :=
  path.leading ++ path.parts.filterMap componentOfPart

/-- The path that leads from `base` along `path`; an absolute path needs no base. -/
def join (base path : Path) : Path :=
  if path.isAbsolute then path
  else if base.text = "" ∨ base.text.toList.getLast? = some '/' then ⟨base.text ++ path.text⟩
  else ⟨base.text ++ "/" ++ path.text⟩

/-- Whether the components of `path` begin with all components of `base`. -/
def startsWith (path base : Path) : Bool :=
  base.components.isPrefixOf path.components

/-- Components written as a path. -/
def ofComponents (components : List Component) : Path :=
  match components with
  | [.root] => ⟨"/"⟩
  | _ => ⟨"/".intercalate (components.map Component.text)⟩

/-- The path written with its components alone. -/
def normalized (path : Path) : Path :=
  ofComponents path.components

end Path

end ApiShapes
