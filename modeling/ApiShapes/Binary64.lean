/-!
# Binary floating-point numbers of 64 bits

A `Binary64` is kept as its bits: a sign, eleven bits of exponent and fifty-two bits of fraction.
Two numbers are equal here when their bits are, so the two zeros differ and a number that is not a
number equals itself.  The operations round to the nearest number, and a half to the even one; they
are computed from exact ratios of natural numbers.
-/

namespace ApiShapes

/-- A floating-point number, given by its bits. -/
structure Binary64 where
  bits : UInt64
  deriving Repr, DecidableEq

namespace Binary64

/-- The weight of the sign bit, which is bit 63. -/
def signWeight : Nat := 0x8000000000000000

/-- The weight of the lowest exponent bit, which is bit 52; the fraction bits lie below it. -/
def exponentWeight : Nat := 0x10000000000000

/-- The sign bit. -/
def isNegative (x : Binary64) : Bool :=
  decide (signWeight ≤ x.bits.toNat)

/-- All bits but the sign, which order the numbers by their absolute value. -/
def magnitude (x : Binary64) : Nat :=
  x.bits.toNat % signWeight

/-- The magnitude of the infinities; everything above is not a number. -/
def infinity : Nat := 2047 * exponentWeight

/-- Whether `x` is not a number. -/
def isNaN (x : Binary64) : Bool :=
  decide (infinity < x.magnitude)

/-- Whether `x` is one of the infinities. -/
def isInfinite (x : Binary64) : Bool :=
  x.magnitude == infinity

/-- Whether `x` is one of the zeros. -/
def isZero (x : Binary64) : Bool :=
  x.magnitude == 0

/-- The eleven exponent bits. -/
def exponentBits (x : Binary64) : Nat :=
  x.magnitude / exponentWeight

/-- The fifty-two fraction bits. -/
def fractionBits (x : Binary64) : Nat :=
  x.magnitude % exponentWeight

/-- The integer `m` of the absolute value `m * 2 ^ q`. -/
def significand (x : Binary64) : Nat :=
  if x.exponentBits = 0 then x.fractionBits else exponentWeight + x.fractionBits

/-- The exponent `q` of the absolute value `m * 2 ^ q`. -/
def exponent (x : Binary64) : Int :=
  (max x.exponentBits 1 : Nat) - 1075

/-- The number with a sign and a magnitude. -/
def ofMagnitude (negative : Bool) (magnitude : Nat) : Binary64 :=
  ⟨.ofNat ((if negative then signWeight else 0) + magnitude)⟩

/-- The number with the other sign. -/
def neg (x : Binary64) : Binary64 :=
  ofMagnitude (!x.isNegative) x.magnitude

/-- The absolute value of a finite number as an exact ratio. -/
def ratio (x : Binary64) : Nat × Nat :=
  (x.significand * Nat.pow 2 x.exponent.toNat, Nat.pow 2 (-x.exponent).toNat)

/-- The quotient rounded to the nearest natural number, a half to the even one. -/
def divideToEven (numerator denominator : Nat) : Nat :=
  let quotient := numerator / denominator
  let twice := 2 * (numerator % denominator)
  if twice < denominator then quotient
  else if twice = denominator then quotient + quotient % 2
  else quotient + 1

/-- The largest `k` with `2 ^ k ≤ numerator / denominator`, both being positive. -/
def ratioLog2 (numerator denominator : Nat) : Int :=
  let estimate : Int := numerator.log2 - denominator.log2
  if denominator * Nat.pow 2 estimate.toNat ≤ numerator * Nat.pow 2 (-estimate).toNat then estimate
  else estimate - 1

/--
The number nearest to a ratio.  The unit of the last place is `2 ^ unit`, chosen so that fifty-three
bits are left, or the smallest unit there is.  The multiple of it counts on from the magnitude at
which that unit comes into force, so a rounding up to the next power of two needs no care; what lies
beyond the largest number is infinite.
-/
def ofRatio (numerator denominator : Nat) : Binary64 :=
  if numerator = 0 then
    ⟨0⟩
  else
    let unit := max (ratioLog2 numerator denominator - 52) (-1074)
    let multiple :=
      divideToEven (numerator * Nat.pow 2 (-unit).toNat) (denominator * Nat.pow 2 unit.toNat)
    ofMagnitude false (min ((unit + 1074).toNat * exponentWeight + multiple) infinity)

/-- The number nearest to a natural number. -/
def ofNat (n : Nat) : Binary64 :=
  ofRatio n 1

/-- The product of the absolute values of two finite numbers. -/
def mulAbs (x y : Binary64) : Binary64 :=
  ofRatio (x.ratio.1 * y.ratio.1) (x.ratio.2 * y.ratio.2)

/-- The quotient of the absolute values of two finite numbers, the second one not zero. -/
def divAbs (x y : Binary64) : Binary64 :=
  ofRatio (x.ratio.1 * y.ratio.2) (x.ratio.2 * y.ratio.1)

end Binary64

end ApiShapes
