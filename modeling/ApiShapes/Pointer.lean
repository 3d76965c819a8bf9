/-!
# Pointers into a schema

A `Pointer` is the path from the root of a schema to one of its nodes: the keys of the maps and the
positions in the lists on the way.  Its text writes a slash before every segment; inside a segment a
tilde is written `~0` and a slash `~1`, so that no segment can be taken for two.
-/

namespace ApiShapes

/-- The segments from the root to a node, outermost first. -/
structure Pointer where
  segments : List String
  deriving Repr, DecidableEq

namespace Pointer

/-- The pointer to the whole schema. -/
def root : Pointer := ⟨[]⟩

/-- The pointer to the entry `segment` of the node at `pointer`. -/
def child (pointer : Pointer) (segment : String) : Pointer :=
  ⟨pointer.segments ++ [segment]⟩

/-- The pointer to the element at `position` of the list at `pointer`. -/
def index (pointer : Pointer) (position : Nat) : Pointer :=
  pointer.child (toString position)

/-- The pointer that continues `pointer` by all of `segments`. -/
def append (pointer : Pointer) (segments : List String) : Pointer :=
  ⟨pointer.segments ++ segments⟩

/-- How one character of a segment is written. -/
def escapeChar (c : Char) : List Char :=
  if c = '~' then ['~', '0']
  else if c = '/' then ['~', '1']
  else [c]

/-- A segment as it is written in a pointer, with the slash before it. -/
def segmentText (segment : String) : List Char :=
  '/' :: segment.toList.flatMap escapeChar

/-- The text of a pointer; the root is the empty text. -/
def text (pointer : Pointer) : String :=
  String.ofList (pointer.segments.flatMap segmentText)

end Pointer

end ApiShapes
