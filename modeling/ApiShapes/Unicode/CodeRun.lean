/-!
# Sets of code points written as runs

A character property is a long list of code points, most of which stand in a row or at every
second place.  A `CodeRun` is such a row, and a table of runs is a property: `inTable` is the
membership test.  The tables of this folder hold version 17 of the character database.
-/

namespace ApiShapes.Unicode

/-- The code points `first`, `first + step`, `first + 2 * step`, … up to `last`. -/
structure CodeRun where
  first : Nat
  last : Nat
  step : Nat
  deriving Repr, DecidableEq

/-- Whether a code point belongs to the run. -/
def CodeRun.contains (run : CodeRun) (code : Nat) : Bool :=
  decide (run.first ≤ code) && decide (code ≤ run.last) && (code - run.first) % run.step == 0

/-- Whether a character belongs to one of the runs of a table. -/
def inTable (table : List CodeRun) (c : Char) : Bool :=
  table.any (·.contains c.toNat)

end ApiShapes.Unicode
