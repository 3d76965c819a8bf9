import ApiShapes.Binary64

/-!
# The shortest decimal digits of a floating-point number

All reals in an interval around a number are rounded to it when they are read.  The shortest digits
are the decimal with the fewest digits in that interval, and of two such decimals the one nearer to
the number.  The search tries one digit, two digits and so on; for every count of digits only the
two neighbours of the number on the decimal grid can be the nearest.
-/

namespace ApiShapes.Decimal

/-- Which of two equally near decimals is taken. -/
inductive Tie where
  | larger
  | even
  deriving Repr, DecidableEq

/-- The decimal `digits * 10 ^ exponent`. -/
structure Scaled where
  digits : Nat
  exponent : Int
  deriving Repr, DecidableEq

/-- The count of decimal digits of a natural number; zero has none. -/
def digitCount (n : Nat) : Nat :=
  if h : n = 0 then 0 else digitCount (n / 10) + 1
termination_by n
decreasing_by omega

/-- The `k` with `10 ^ (k - 1) ≤ numerator / denominator < 10 ^ k`, both being positive. -/
def decade (numerator denominator : Nat) : Int :=
  if denominator ≤ numerator then digitCount (numerator / denominator)
  else 1 - digitCount ((denominator + numerator - 1) / numerator - 1)

/--
The reals that are read as one number: those between `low` and `high` over `denominator`, the two
ends included when `closed` holds.  The number itself is `value` over `denominator`.
-/
structure Interval where
  low : Nat
  value : Nat
  high : Nat
  denominator : Nat
  closed : Bool
  deriving Repr, DecidableEq

/--
The interval of a finite number.  Its ends lie half a unit away, except that below a power of two
the units are half as large.  The ends belong to it when the significand is even.
-/
def Interval.of (x : Binary64) : Interval :=
  let m := x.significand
  let scale := Nat.pow 2 (x.exponent - 2).toNat
  let below := if x.fractionBits = 0 ∧ 1 < x.exponentBits then 1 else 2
  { low := (4 * m - below) * scale
    value := 4 * m * scale
    high := (4 * m + 2) * scale
    denominator := Nat.pow 2 (2 - x.exponent).toNat
    closed := m % 2 == 0 }

/-- Whether `numerator / denominator` lies in the interval. -/
def Interval.contains (interval : Interval) (numerator denominator : Nat) : Bool :=
  let low := interval.low * denominator
  let high := interval.high * denominator
  let point := numerator * interval.denominator
  if interval.closed then decide (low ≤ point) && decide (point ≤ high)
  else decide (low < point) && decide (point < high)

/-- The decimal of the grid `10 ^ exponent` in the interval that is nearest to its value. -/
def nearestOnGrid (tie : Tie) (interval : Interval) (exponent : Int) : Option Scaled :=
  let unit := Nat.pow 10 exponent.toNat
  let parts := Nat.pow 10 (-exponent).toNat
  let whole := interval.denominator * unit
  let below := interval.value * parts / whole
  let above := below + 1
  let rest := 2 * (interval.value * parts % whole)
  let preferBelow :=
    if rest = whole then tie == .even && below % 2 == 0 else decide (rest < whole)
  match interval.contains (below * unit) parts, interval.contains (above * unit) parts with
  | true, true => some ⟨if preferBelow then below else above, exponent⟩
  | true, false => some ⟨below, exponent⟩
  | false, true => some ⟨above, exponent⟩
  | false, false => none

/-- The shortest digits of a finite number other than zero; seventeen digits always suffice. -/
def shortest (tie : Tie) (x : Binary64) : Scaled :=
  let interval := Interval.of x
  let top := decade interval.value interval.denominator
  ((List.range' 1 17).findSome? fun count : Nat => nearestOnGrid tie interval (top - count)).getD
    ⟨interval.value / interval.denominator, 0⟩

end ApiShapes.Decimal
