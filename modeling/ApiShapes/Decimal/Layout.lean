import ApiShapes.Decimal.Shortest

/-!
# The text of a floating-point number

The shortest digits of a number are written either plainly, with the point at its place and at least
one digit after it, or with one digit before the point and a power of ten.  A `Layout` says which
form is taken where, and how the power of ten is written.
-/

namespace ApiShapes.Decimal

/--
The choices of a text form: the range of powers of ten of the first digit that are written plainly,
whether a positive power carries a plus sign, and which of two equally near decimals is taken.
-/
structure Layout where
  plainFrom : Int
  plainTo : Int
  plusSign : Bool
  tie : Tie
  deriving Repr, DecidableEq

/-- Digits with the point after the first `before` of them; zeros fill up on both sides. -/
def plainText (digits : List Char) (before : Int) : List Char :=
  let padded := List.replicate (1 - before).toNat '0' ++ digits
  let place := (max before 1).toNat
  let whole := padded.take place ++ List.replicate (place - padded.length) '0'
  let fraction := padded.drop place
  whole ++ '.' :: (if fraction.isEmpty then ['0'] else fraction)

/-- Digits with the point after the first one, and the power of ten of that digit. -/
def scientificText (plusSign : Bool) (digits : List Char) (power : Int) : List Char :=
  let fraction := digits.drop 1
  digits.take 1 ++ (if fraction.isEmpty then [] else '.' :: fraction) ++ 'e' ::
    ((if plusSign && 0 < power then ['+'] else []) ++ (toString power).toList)

/-- Digits without the zeros that end them. -/
def significantDigits (n : Nat) : List Char :=
  ((Nat.toDigits 10 n).reverse.dropWhile (· = '0')).reverse

/-- The text of the absolute value of a finite number. -/
def Layout.absText (layout : Layout) (x : Binary64) : List Char :=
  if x.isZero then
    ['0', '.', '0']
  else
    let decimal := shortest layout.tie x
    let before := decimal.exponent + digitCount decimal.digits
    let digits := significantDigits decimal.digits
    if layout.plainFrom ≤ before - 1 ∧ before - 1 ≤ layout.plainTo then plainText digits before
    else scientificText layout.plusSign digits (before - 1)

/-- The text of a number. -/
def Layout.text (layout : Layout) (x : Binary64) : String :=
  if x.isNaN then
    "NaN"
  else
    let sign := if x.isNegative then ['-'] else []
    String.ofList (sign ++ (if x.isInfinite then ['i', 'n', 'f'] else layout.absText x))

end ApiShapes.Decimal
