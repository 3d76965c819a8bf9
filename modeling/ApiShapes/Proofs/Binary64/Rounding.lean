import ApiShapes.Binary64
import Mathlib.Algebra.Order.Field.Power
import Mathlib.Algebra.Order.Field.Rat
import Mathlib.Tactic.FieldSimp
import Mathlib.Tactic.Linarith
import Mathlib.Tactic.Positivity
import Mathlib.Tactic.Ring

/-!
# Rounding to floating-point numbers

A finite number is a significand times a power of two, which is its unit.  The rationals that are
nearer to it than to its neighbours reach half a unit up and half a unit down, and only a quarter
down where the units below are half as large; at the ends the number with the even significand is
taken.  Main statement: a ratio of natural numbers in this range is rounded to the number.
-/

namespace ApiShapes

/-- A power as a ratio of two powers with natural exponents, one of which is zero. -/
theorem zpow_eq_ratio {base : ℕ} (positive : 0 < base) (k : ℤ) :
    (base : ℚ) ^ k = (base ^ k.toNat : ℕ) / (base ^ (-k).toNat : ℕ) := by
  have nonzero : (base : ℚ) ≠ 0 := by positivity
  rw [Nat.cast_pow, Nat.cast_pow, ← zpow_natCast, ← zpow_natCast, ← zpow_sub₀ nonzero]
  congr 1
  omega

theorem two_zpow_eq_ratio (k : ℤ) :
    (2 : ℚ) ^ k = (2 ^ k.toNat : ℕ) / (2 ^ (-k).toNat : ℕ) := by
  have ratio := zpow_eq_ratio two_pos k
  rwa [Nat.cast_two] at ratio

namespace Binary64

/-- Neither infinite nor something that is not a number. -/
def IsFinite (x : Binary64) : Prop :=
  x.magnitude < infinity

instance (x : Binary64) : Decidable x.IsFinite :=
  inferInstanceAs (Decidable (_ < _))

/-- How far the rationals that are rounded to a number reach down, in its unit. -/
def reachDown (x : Binary64) : ℚ :=
  if x.fractionBits = 0 ∧ 1 < x.exponentBits then 1 / 4 else 1 / 2

/-- A rational is rounded to the absolute value of a number.  It is compared in the unit. -/
structure Catches (x : Binary64) (r : ℚ) : Prop where
  low : x.significand - x.reachDown ≤ r / 2 ^ x.exponent
  high : r / 2 ^ x.exponent ≤ x.significand + 1 / 2
  even_of_low : r / 2 ^ x.exponent = x.significand - x.reachDown → x.significand % 2 = 0
  even_of_high : r / 2 ^ x.exponent = x.significand + 1 / 2 → x.significand % 2 = 0

section Parts

variable (x : Binary64)

/--
The absolute value of a number, as an integer, is made up of its unit and its significand.  So it
counts the numbers up to there.
-/
theorem magnitude_eq :
    x.magnitude = (x.exponent + 1074).toNat * exponentWeight + x.significand := by
  have parts := Nat.div_add_mod x.magnitude exponentWeight
  rw [significand, exponent]
  change exponentWeight * x.exponentBits + x.fractionBits = x.magnitude at parts
  split
  · rename_i isSmall
    simp [isSmall] at parts ⊢
    exact parts.symm
  · obtain ⟨k, isNormal⟩ : ∃ k, x.exponentBits = k + 1 := ⟨x.exponentBits - 1, by omega⟩
    have steps : (((max x.exponentBits 1 : ℕ) : ℤ) - 1075 + 1074).toNat = k := by omega
    rw [steps, ← parts, isNormal]
    ring

/-- A significand has at most 53 binary digits. -/
theorem significand_lt : x.significand < 2 * exponentWeight := by
  have fraction : x.fractionBits < exponentWeight := Nat.mod_lt _ (by decide)
  rw [significand]
  split <;> omega

theorem exponent_ge : -1074 ≤ x.exponent := by
  rw [exponent]
  omega

/-- Only the numbers with the least unit have short significands. -/
theorem weight_le_significand (notLeast : -1074 < x.exponent) :
    exponentWeight ≤ x.significand := by
  have isNormal : x.exponentBits ≠ 0 := by
    intro isSmall
    rw [exponent, isSmall] at notLeast
    simp at notLeast
  rw [significand, if_neg isNormal]
  exact Nat.le_add_right _ _

/-- A number other than zero has a significand other than zero. -/
theorem significand_pos (nonzero : x.isZero = false) : 0 < x.significand := by
  rw [isZero, beq_eq_false_iff_ne, magnitude_eq] at nonzero
  by_contra isZero
  obtain least | notLeast := x.exponent_ge.eq_or_lt
  · rw [← least] at nonzero
    simp at nonzero
    omega
  · have := x.weight_le_significand notLeast
    have : 0 < exponentWeight := by decide
    omega

/-- At a power of two the units below are half as large. -/
theorem reachDown_eq_quarter
    (isPower : x.significand = exponentWeight) (notLeast : -1074 < x.exponent) :
    x.reachDown = 1 / 4 := by
  have isNormal : 1 < x.exponentBits := by
    rw [exponent] at notLeast
    omega
  rw [significand, if_neg (by omega)] at isPower
  rw [reachDown, if_pos ⟨by omega, isNormal⟩]

theorem reachDown_bounds : 1 / 4 ≤ x.reachDown ∧ x.reachDown ≤ 1 / 2 := by
  rw [reachDown]
  split <;> constructor <;> norm_num

end Parts

/-! ## Ratios -/

section Ratio

variable {numerator denominator : ℕ}

/--
The binary logarithm of a ratio is rounded down.  It is estimated from the lengths of both parts and
corrected by one comparison.
-/
theorem ratioLog2_spec (hasNumerator : 0 < numerator) (hasDenominator : 0 < denominator) :
    (2 : ℚ) ^ ratioLog2 numerator denominator ≤ numerator / denominator ∧
      (numerator / denominator : ℚ) < 2 ^ (ratioLog2 numerator denominator + 1) := by
  have divides : (0 : ℚ) < denominator := by positivity
  have numeratorLow : (2 : ℚ) ^ numerator.log2 ≤ numerator :=
    mod_cast Nat.log2_self_le hasNumerator.ne'
  have numeratorHigh : (numerator : ℚ) < 2 ^ (numerator.log2 + 1) :=
    mod_cast Nat.lt_log2_self
  have denominatorLow : (2 : ℚ) ^ denominator.log2 ≤ denominator :=
    mod_cast Nat.log2_self_le hasDenominator.ne'
  have denominatorHigh : (denominator : ℚ) < 2 ^ (denominator.log2 + 1) :=
    mod_cast Nat.lt_log2_self
  rw [ratioLog2]
  generalize estimate_eq : (numerator.log2 : ℤ) - denominator.log2 = estimate
  have low : (2 : ℚ) ^ (estimate - 1) ≤ numerator / denominator := by
    have split : (2 : ℚ) ^ (estimate - 1) = 2 ^ numerator.log2 / 2 ^ (denominator.log2 + 1) := by
      rw [← zpow_natCast, ← zpow_natCast, ← zpow_sub₀ two_ne_zero]
      congr 1
      omega
    rw [split]
    gcongr
  have high : (numerator / denominator : ℚ) < 2 ^ (estimate + 1) := by
    have split : (2 : ℚ) ^ (estimate + 1) = 2 ^ (numerator.log2 + 1) / 2 ^ denominator.log2 := by
      rw [← zpow_natCast, ← zpow_natCast, ← zpow_sub₀ two_ne_zero]
      congr 1
      omega
    rw [split]
    gcongr
  have reaches : denominator * Nat.pow 2 estimate.toNat ≤ numerator * Nat.pow 2 (-estimate).toNat ↔
      (2 : ℚ) ^ estimate ≤ numerator / denominator := by
    rw [two_zpow_eq_ratio estimate, div_le_div_iff₀ (by positivity) divides, mul_comm denominator]
    exact mod_cast Iff.rfl
  split
  · rename_i isReached
    exact ⟨reaches.mp isReached, high⟩
  · rename_i notReached
    rw [reaches, not_le] at notReached
    exact ⟨low, by rwa [sub_add_cancel]⟩

/-- What lies less than half away, or half away from an even number, is rounded to it. -/
theorem divideToEven_eq (hasDenominator : 0 < denominator) {nearest : ℕ}
    (low : (nearest : ℚ) - 1 / 2 ≤ numerator / denominator)
    (high : (numerator / denominator : ℚ) ≤ nearest + 1 / 2)
    (even : (numerator / denominator : ℚ) = nearest - 1 / 2 ∨
      (numerator / denominator : ℚ) = nearest + 1 / 2 → nearest % 2 = 0) :
    divideToEven numerator denominator = nearest := by
  have divides : (0 : ℚ) < denominator := by positivity
  have parts := Nat.div_add_mod numerator denominator
  have rest_lt := Nat.mod_lt numerator hasDenominator
  rw [divideToEven]
  generalize numerator / denominator = quotient at parts ⊢
  generalize numerator % denominator = rest at parts rest_lt ⊢
  have ratio : (numerator / denominator : ℚ) = quotient + rest / denominator := by
    rw [← parts]
    push_cast
    field_simp
  have rest_nonneg : (0 : ℚ) ≤ rest / denominator := by positivity
  have rest_lt_one : (rest / denominator : ℚ) < 1 := by
    rw [div_lt_one divides]
    exact mod_cast rest_lt
  rw [ratio] at low high even
  have around : quotient = nearest ∨ quotient + 1 = nearest := by
    have above : (quotient : ℚ) < nearest + 1 := by linarith
    have below : (nearest : ℚ) < quotient + 2 := by linarith
    have : quotient < nearest + 1 := mod_cast above
    have : nearest < quotient + 2 := mod_cast below
    omega
  rcases lt_trichotomy (2 * rest) denominator with isLess | isHalf | isMore
  · have less : (rest / denominator : ℚ) < 1 / 2 := by
      rw [div_lt_div_iff₀ divides two_pos]
      have : (2 * rest : ℚ) < denominator := mod_cast isLess
      linarith
    rw [if_pos isLess]
    rcases around with rfl | rfl
    · rfl
    · push_cast at low
      linarith
  · have half : (rest / denominator : ℚ) = 1 / 2 := by
      rw [div_eq_div_iff divides.ne' two_ne_zero]
      have : (2 * rest : ℚ) = denominator := mod_cast isHalf
      linarith
    rw [if_neg isHalf.not_lt, if_pos isHalf]
    rw [half] at even
    rcases around with rfl | rfl
    · rw [even (.inr rfl), Nat.add_zero]
    · have isEven := even (.inl (by push_cast; ring))
      omega
  · have more : (1 / 2 : ℚ) < rest / denominator := by
      rw [div_lt_div_iff₀ two_pos divides]
      have : (denominator : ℚ) < 2 * rest := mod_cast isMore
      linarith
    rw [if_neg isMore.not_gt, if_neg isMore.ne']
    rcases around with rfl | rfl
    · linarith
    · rfl

end Ratio

/-! ## Numbers and the rationals that they catch -/

section Catches

variable {x : Binary64} {numerator denominator : ℕ}

/-- The unit that a rational asks for: that of the number, or else the one below a power of two. -/
theorem Catches.unit_cases
    (caught : x.Catches (numerator / denominator)) (hasNumerator : 0 < numerator)
    (hasDenominator : 0 < denominator) :
    max (ratioLog2 numerator denominator - 52) (-1074) = x.exponent ∨
      (x.significand = exponentWeight ∧ -1074 < x.exponent ∧
        (numerator / denominator : ℚ) / 2 ^ x.exponent < exponentWeight ∧
        max (ratioLog2 numerator denominator - 52) (-1074) = x.exponent - 1) := by
  rcases ratioLog2_spec hasNumerator hasDenominator with ⟨logLow, logHigh⟩
  generalize ratioLog2 numerator denominator = log at logLow logHigh ⊢
  have low := caught.low
  have high := caught.high
  have reach := x.reachDown_bounds
  have unit_pos : (0 : ℚ) < 2 ^ x.exponent := by positivity
  have weight : (exponentWeight : ℚ) = 2 ^ (52 : ℤ) := by norm_num [exponentWeight]
  have log_lt {k : ℤ} (isLess : (numerator / denominator : ℚ) / 2 ^ x.exponent < 2 ^ k) :
      log < k + x.exponent := by
    rw [div_lt_iff₀ unit_pos, ← zpow_add₀ two_ne_zero] at isLess
    exact (zpow_lt_zpow_iff_right₀ one_lt_two).mp (logLow.trans_lt isLess)
  have lt_log {k : ℤ} (isMore : 2 ^ k ≤ (numerator / denominator : ℚ) / 2 ^ x.exponent) :
      k + x.exponent < log + 1 := by
    rw [le_div_iff₀ unit_pos, ← zpow_add₀ two_ne_zero] at isMore
    exact (zpow_lt_zpow_iff_right₀ one_lt_two).mp (isMore.trans_lt logHigh)
  generalize (numerator / denominator : ℚ) / 2 ^ x.exponent = scaled at *
  have ge := x.exponent_ge
  rcases lt_or_ge scaled exponentWeight with isLess | isMore
  · have belowLog := log_lt (k := 52) (by rwa [← weight])
    obtain least | notLeast := ge.eq_or_lt
    · exact .inl (by omega)
    · have long := x.weight_le_significand notLeast
      have isPower : x.significand = exponentWeight := by
        have : (x.significand : ℚ) < exponentWeight + 1 := by linarith
        have : x.significand < exponentWeight + 1 := mod_cast this
        omega
      have aboveLog := lt_log (k := 51) (by
        rw [isPower, weight] at low
        norm_num at low ⊢
        linarith)
      exact .inr ⟨isPower, notLeast, isLess, by omega⟩
  · have aboveLog := lt_log (k := 52) (by rwa [← weight])
    have belowLog := log_lt (k := 53) (by
      have : (x.significand : ℚ) + 1 ≤ 2 * exponentWeight := mod_cast x.significand_lt
      rw [weight] at this
      norm_num at this ⊢
      linarith)
    exact .inl (by omega)

/-- A ratio is rounded to the nearest multiple of its unit. -/
theorem ofRatio_eq
    (hasNumerator : 0 < numerator) (hasDenominator : 0 < denominator)
    {unit : ℤ} (unit_eq : max (ratioLog2 numerator denominator - 52) (-1074) = unit) (nearest : ℕ)
    (low : (nearest : ℚ) - 1 / 2 ≤ numerator / denominator / 2 ^ unit)
    (high : (numerator / denominator / 2 ^ unit : ℚ) ≤ nearest + 1 / 2)
    (even : (numerator / denominator / 2 ^ unit : ℚ) = nearest - 1 / 2 ∨
      (numerator / denominator / 2 ^ unit : ℚ) = nearest + 1 / 2 → nearest % 2 = 0) :
    ofRatio numerator denominator =
      ofMagnitude false (min ((unit + 1074).toNat * exponentWeight + nearest) infinity) := by
  have scaled : ((numerator * 2 ^ (-unit).toNat : ℕ) / (denominator * 2 ^ unit.toNat : ℕ) : ℚ) =
      numerator / denominator / 2 ^ unit := by
    rw [two_zpow_eq_ratio unit]
    push_cast
    field_simp
  have rounded :
      divideToEven (numerator * 2 ^ (-unit).toNat) (denominator * 2 ^ unit.toNat) = nearest := by
    apply divideToEven_eq (by positivity) <;> rwa [scaled]
  rw [ofRatio, if_neg hasNumerator.ne']
  simp only [Nat.pow_eq, unit_eq, rounded]

/-- A number other than zero catches positive rationals only. -/
theorem Catches.pos {r : ℚ} (caught : x.Catches r) (nonzero : x.isZero = false) : 0 < r := by
  have low := caught.low
  have reach := x.reachDown_bounds
  have : (1 : ℚ) ≤ x.significand := mod_cast x.significand_pos nonzero
  have unit_pos : (0 : ℚ) < 2 ^ x.exponent := by positivity
  have scaled_pos : 0 < r / 2 ^ x.exponent := by linarith
  exact (div_pos_iff_of_pos_right unit_pos).mp scaled_pos

/--
A ratio that a finite number catches is rounded to the number, without its sign.  Just below a power
of two there are twice as many multiples of half the unit to round to.
-/
theorem ofRatio_of_catches
    (caught : x.Catches (numerator / denominator)) (finite : x.IsFinite)
    (nonzero : x.isZero = false) (hasDenominator : 0 < denominator) :
    ofRatio numerator denominator = ofMagnitude false x.magnitude := by
  have hasNumerator : 0 < numerator := by
    by_contra isZero
    have positive := caught.pos nonzero
    rw [Nat.eq_zero_of_not_pos isZero, Nat.cast_zero, zero_div] at positive
    exact positive.false
  have low := caught.low
  have high := caught.high
  have reach := x.reachDown_bounds
  rcases caught.unit_cases hasNumerator hasDenominator with
    unit_eq | ⟨isPower, notLeast, isLess, unit_eq⟩
  · rw [ofRatio_eq hasNumerator hasDenominator unit_eq _ (by linarith) high, ← magnitude_eq,
      min_eq_left (le_of_lt finite)]
    rintro (atLow | atHigh)
    · exact caught.even_of_low (by linarith)
    · exact caught.even_of_high atHigh
  · have halved : (numerator / denominator / 2 ^ (x.exponent - 1) : ℚ) =
        2 * (numerator / denominator / 2 ^ x.exponent) := by
      rw [zpow_sub_one₀ two_ne_zero]
      field_simp
    rw [x.reachDown_eq_quarter isPower notLeast, isPower] at low
    have magnitude : (x.exponent - 1 + 1074).toNat * exponentWeight + 2 * exponentWeight =
        x.magnitude := by
      have steps : (x.exponent + 1074).toNat = (x.exponent - 1 + 1074).toNat + 1 := by omega
      rw [x.magnitude_eq, isPower, steps]
      ring
    rw [ofRatio_eq hasNumerator hasDenominator unit_eq (2 * exponentWeight), magnitude,
      min_eq_left (le_of_lt finite)]
    · rw [halved]
      push_cast
      linarith
    · rw [halved]
      push_cast
      linarith
    · exact fun _ => Nat.mul_mod_right 2 exponentWeight

end Catches

/-! ## Signs -/

/-- A number is known by its sign and its absolute value. -/
theorem ofMagnitude_magnitude (x : Binary64) : ofMagnitude x.isNegative x.magnitude = x := by
  have bound := x.bits.toNat_lt
  have whole : (if x.isNegative then signWeight else 0) + x.magnitude = x.bits.toNat := by
    rw [isNegative, magnitude, signWeight]
    by_cases negative : 0x8000000000000000 ≤ x.bits.toNat
    · rw [if_pos (decide_eq_true negative)]
      omega
    · rw [if_neg (by simpa using negative)]
      omega
  rw [ofMagnitude, whole, UInt64.ofNat_toNat]

/-- A minus sets the sign of a positive number. -/
theorem neg_ofMagnitude {n : ℕ} (isMagnitude : n < signWeight) :
    (ofMagnitude false n).neg = ofMagnitude true n := by
  have bits : (ofMagnitude false n).bits.toNat = n := by
    rw [signWeight] at isMagnitude
    simp only [ofMagnitude, Bool.false_eq_true, if_false, Nat.zero_add]
    exact UInt64.toNat_ofNat_of_lt' (by rw [UInt64.size]; omega)
  have positive : (ofMagnitude false n).isNegative = false := by
    rw [isNegative, bits, decide_eq_false_iff_not]
    omega
  rw [neg, positive, magnitude, bits, Nat.mod_eq_of_lt isMagnitude, Bool.not_false]

end Binary64

end ApiShapes
