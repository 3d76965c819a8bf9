import ApiShapes.Binary64

/-!
# JSON values

A JSON value keeps the order of its object entries.  A number is a natural number of 64 bits, a
negative integer of 64 bits, or else a floating-point number.
-/

namespace ApiShapes.Json

/-- A number, by the narrowest of three kinds that holds it. -/
inductive Number where
  | natural (n : UInt64)
  | negative (i : Int64)
  | real (x : Binary64)
  deriving Repr, DecidableEq

/-- An integer with a sign has 64 bits when it lies from `-signedBound` up to below `signedBound`. -/
def signedBound : Nat := 0x8000000000000000

/-- A JSON value. -/
inductive Value where
  | null
  | bool (b : Bool)
  | number (n : Number)
  | string (s : String)
  | array (items : List Value)
  | object (entries : List (String × Value))
  deriving Repr

/-- Sets the value of a key: at its first place if it is there already, else at the end. -/
def setEntry (key : String) (value : Value) : List (String × Value) → List (String × Value)
  | [] => [(key, value)]
  | entry :: entries =>
      if entry.1 = key then (key, value) :: entries
      else entry :: setEntry key value entries

end ApiShapes.Json
