import ApiShapes.Decimal.Shortest
import ApiShapes.Proofs.Binary64.Rounding

/-!
# The shortest digits are rounded to the number

The interval in which digits are searched is the range of the rationals that the number catches.  A
decimal that is found lies in it, so it is rounded to the number; and with seventeen digits the
decimals lie closer together than the interval is wide, so one is always found.
-/

namespace ApiShapes

/-- A decimal as a ratio of natural numbers. -/
theorem decimal_eq_ratio (digits : ℕ) (exponent : ℤ) :
    (digits * 10 ^ exponent : ℚ) =
      (digits * 10 ^ exponent.toNat : ℕ) / (10 ^ (-exponent).toNat : ℕ) := by
  have power := @zpow_eq_ratio 10 (by decide) exponent
  rw [Nat.cast_ofNat] at power
  rw [power, Nat.cast_mul, mul_div_assoc]

/-- The number nearest to a significand times a power of ten. -/
def Binary64.ofDecimal (significand : ℕ) (power : ℤ) : Binary64 :=
  .ofRatio (significand * 10 ^ power.toNat) (10 ^ (-power).toNat)

/-- A decimal that a finite number catches is rounded to the number, without its sign. -/
theorem Binary64.ofDecimal_of_catches
    {x : Binary64} {significand : ℕ} {power : ℤ} (caught : x.Catches (significand * 10 ^ power))
    (finite : x.IsFinite) (nonzero : x.isZero = false) :
    ofDecimal significand power = ofMagnitude false x.magnitude := by
  apply ofRatio_of_catches _ finite nonzero (by positivity)
  rwa [← decimal_eq_ratio]

namespace Decimal

/-! ## Counting digits -/

/-- A number with `k` digits is less than the power of ten with `k` zeros. -/
theorem lt_pow_digitCount (n : ℕ) : n < 10 ^ digitCount n := by
  induction n using Nat.strongRecOn with
  | ind n ih =>
      rw [digitCount]
      split
      · omega
      · have := ih (n / 10) (by omega)
        rw [Nat.pow_succ]
        omega

/-- A number is at least the power of ten with as many digits. -/
theorem pow_digitCount_le {n : ℕ} (positive : 0 < n) : 10 ^ (digitCount n - 1) ≤ n := by
  induction n using Nat.strongRecOn with
  | ind n ih =>
      rw [digitCount, dif_neg positive.ne', Nat.add_sub_cancel]
      by_cases isDigit : n < 10
      · rw [Nat.div_eq_of_lt isDigit, digitCount, dif_pos rfl]
        exact positive
      · have inner := ih (n / 10) (by omega) (by omega)
        obtain ⟨k, count⟩ : ∃ k, digitCount (n / 10) = k + 1 := by
          rw [digitCount, dif_neg (by omega)]
          exact ⟨_, rfl⟩
        rw [count, Nat.add_sub_cancel] at inner
        rw [count, Nat.pow_succ]
        omega

/--
A ratio reaches the power of ten below its decade.  Below one the digits of its inverse are counted,
rounded up.
-/
theorem pow_decade_le
    {numerator denominator : ℕ} (hasNumerator : 0 < numerator)
    (hasDenominator : 0 < denominator) :
    (10 : ℚ) ^ (decade numerator denominator - 1) ≤ numerator / denominator := by
  have divides : (0 : ℚ) < denominator := by positivity
  rw [decade]
  split
  · rename_i isLarge
    have hasQuotient : 0 < numerator / denominator := Nat.div_pos isLarge hasDenominator
    have isCount : 0 < digitCount (numerator / denominator) := by
      rw [digitCount, dif_neg hasQuotient.ne']
      exact Nat.succ_pos _
    have power : ((digitCount (numerator / denominator) : ℕ) : ℤ) - 1 =
        (digitCount (numerator / denominator) - 1 : ℕ) := by
      omega
    rw [power, zpow_natCast, le_div_iff₀ divides]
    have reached := Nat.mul_le_mul_right denominator (pow_digitCount_le hasQuotient)
    exact mod_cast reached.trans (Nat.div_mul_le_self numerator denominator)
  · rename_i isSmall
    generalize ceiling_eq : (denominator + numerator - 1) / numerator = ceiling
    have covers : denominator ≤ ceiling * numerator := by
      rw [← ceiling_eq]
      have parts := Nat.div_add_mod (denominator + numerator - 1) numerator
      have rest := Nat.mod_lt (denominator + numerator - 1) hasNumerator
      rw [Nat.mul_comm]
      omega
    have bound : ceiling ≤ 10 ^ digitCount (ceiling - 1) := by
      have := lt_pow_digitCount (ceiling - 1)
      omega
    have power : (1 : ℤ) - digitCount (ceiling - 1) - 1 = -(digitCount (ceiling - 1) : ℕ) := by
      omega
    rw [power, zpow_neg, zpow_natCast, inv_le_comm₀ (by positivity) (by positivity), inv_div,
      div_le_iff₀ (by positivity)]
    exact mod_cast covers.trans (Nat.mul_le_mul_right numerator bound)

/-! ## Intervals -/

section Interval

variable {interval : Interval} {numerator denominator : ℕ}

/--
A ratio is in an interval if it lies between the ends, or at one of them if these belong to it.
-/
theorem Interval.contains_iff
    (hasParts : 0 < interval.denominator) (hasDenominator : 0 < denominator) :
    interval.contains numerator denominator = true ↔
      (interval.low / interval.denominator : ℚ) ≤ numerator / denominator ∧
      (numerator / denominator : ℚ) ≤ interval.high / interval.denominator ∧
      ((numerator / denominator : ℚ) = interval.low / interval.denominator ∨
        (numerator / denominator : ℚ) = interval.high / interval.denominator →
          interval.closed = true) := by
  have parts_pos : (0 : ℚ) < interval.denominator := by positivity
  have divides : (0 : ℚ) < denominator := by positivity
  have low_le : (interval.low / interval.denominator : ℚ) ≤ numerator / denominator ↔
      interval.low * denominator ≤ numerator * interval.denominator := by
    rw [div_le_div_iff₀ parts_pos divides]
    exact mod_cast Iff.rfl
  have le_high : (numerator / denominator : ℚ) ≤ interval.high / interval.denominator ↔
      numerator * interval.denominator ≤ interval.high * denominator := by
    rw [div_le_div_iff₀ divides parts_pos]
    exact mod_cast Iff.rfl
  have eq_low : (numerator / denominator : ℚ) = interval.low / interval.denominator ↔
      numerator * interval.denominator = interval.low * denominator := by
    rw [div_eq_div_iff divides.ne' parts_pos.ne']
    exact mod_cast Iff.rfl
  have eq_high : (numerator / denominator : ℚ) = interval.high / interval.denominator ↔
      numerator * interval.denominator = interval.high * denominator := by
    rw [div_eq_div_iff divides.ne' parts_pos.ne']
    exact mod_cast Iff.rfl
  rw [low_le, le_high, eq_low, eq_high, contains]
  cases interval.closed
  · simp
    omega
  · simp

/-- Whether the decimal `digits * 10 ^ exponent` lies in an interval. -/
def Interval.holds (interval : Interval) (digits : ℕ) (exponent : ℤ) : Bool :=
  interval.contains (digits * 10 ^ exponent.toNat) (10 ^ (-exponent).toNat)

/-- The digits of the last decimal on a grid that does not exceed the value of an interval. -/
def Interval.digitsBelow (interval : Interval) (exponent : ℤ) : ℕ :=
  interval.value * 10 ^ (-exponent).toNat / (interval.denominator * 10 ^ exponent.toNat)

/-- The search on a grid finds one of the neighbours of the value, unless neither is in reach. -/
theorem nearestOnGrid_cases (tie : Tie) (interval : Interval) (exponent : ℤ) :
    (∃ digits, nearestOnGrid tie interval exponent = some ⟨digits, exponent⟩ ∧
      interval.holds digits exponent = true) ∨
    (nearestOnGrid tie interval exponent = none ∧
      interval.holds (interval.digitsBelow exponent) exponent = false ∧
      interval.holds (interval.digitsBelow exponent + 1) exponent = false) := by
  simp only [nearestOnGrid, Nat.pow_eq]
  rw [← Interval.digitsBelow, ← Interval.holds, ← Interval.holds]
  generalize interval.digitsBelow exponent = below
  cases belowIn : interval.holds below exponent <;>
    cases aboveIn : interval.holds (below + 1) exponent
  · exact .inr ⟨rfl, rfl, rfl⟩
  · exact .inl ⟨_, rfl, aboveIn⟩
  · exact .inl ⟨_, rfl, belowIn⟩
  · have either (prefersBelow : Bool) :
        interval.holds (if prefersBelow then below else below + 1) exponent = true := by
      cases prefersBelow
      · exact aboveIn
      · exact belowIn
    exact .inl ⟨_, rfl, either _⟩

theorem Interval.holds_iff (hasParts : 0 < interval.denominator) (digits : ℕ) (exponent : ℤ) :
    interval.holds digits exponent = true ↔
      (interval.low / interval.denominator : ℚ) ≤ digits * 10 ^ exponent ∧
      (digits * 10 ^ exponent : ℚ) ≤ interval.high / interval.denominator ∧
      ((digits * 10 ^ exponent : ℚ) = interval.low / interval.denominator ∨
        (digits * 10 ^ exponent : ℚ) = interval.high / interval.denominator →
          interval.closed = true) := by
  rw [holds, contains_iff hasParts (by positivity), decimal_eq_ratio]

/-- The value of an interval lies between the decimal below it and the next one on the grid. -/
theorem Interval.digitsBelow_bounds (hasParts : 0 < interval.denominator) (exponent : ℤ) :
    (interval.digitsBelow exponent * 10 ^ exponent : ℚ) ≤ interval.value / interval.denominator ∧
      (interval.value / interval.denominator : ℚ) <
        (interval.digitsBelow exponent + 1 : ℕ) * 10 ^ exponent := by
  have parts_pos : (0 : ℚ) < interval.denominator := by positivity
  have whole_pos : 0 < interval.denominator * 10 ^ exponent.toNat := by positivity
  have reached := Nat.div_mul_le_self (interval.value * 10 ^ (-exponent).toNat)
    (interval.denominator * 10 ^ exponent.toNat)
  have passed := Nat.lt_div_mul_add (a := interval.value * 10 ^ (-exponent).toNat) whole_pos
  rw [← digitsBelow] at reached passed
  generalize interval.digitsBelow exponent = below at reached passed ⊢
  rw [decimal_eq_ratio, decimal_eq_ratio, div_le_div_iff₀ (by positivity) parts_pos,
    div_lt_div_iff₀ parts_pos (by positivity)]
  constructor
  · have : below * 10 ^ exponent.toNat * interval.denominator ≤
        interval.value * 10 ^ (-exponent).toNat := by
      rwa [mul_assoc, mul_comm (10 ^ exponent.toNat)]
    exact mod_cast this
  · have : interval.value * 10 ^ (-exponent).toNat <
        (below + 1) * 10 ^ exponent.toNat * interval.denominator := by
      calc
        _ < below * (interval.denominator * 10 ^ exponent.toNat) +
            interval.denominator * 10 ^ exponent.toNat := passed
        _ = (below + 1) * 10 ^ exponent.toNat * interval.denominator := by ring
    exact mod_cast this

/--
On a grid that is finer than the interval is wide, the search finds something.  Otherwise the
interval would lie between two neighbours on the grid.
-/
theorem nearestOnGrid_isSome
    (tie : Tie) {exponent : ℤ} (hasParts : 0 < interval.denominator)
    (low : interval.low < interval.value) (high : interval.value < interval.high)
    (fine : (10 : ℚ) ^ exponent < interval.high / interval.denominator -
      interval.low / interval.denominator) :
    (nearestOnGrid tie interval exponent).isSome = true := by
  rcases nearestOnGrid_cases tie interval exponent with ⟨digits, found, -⟩ | ⟨-, belowOut, aboveOut⟩
  · rw [found, Option.isSome_some]
  · have parts_pos : (0 : ℚ) < interval.denominator := by positivity
    have lowValue : (interval.low / interval.denominator : ℚ) <
        interval.value / interval.denominator := by
      gcongr
    have valueHigh : (interval.value / interval.denominator : ℚ) <
        interval.high / interval.denominator := by
      gcongr
    rcases interval.digitsBelow_bounds hasParts exponent with ⟨reached, passed⟩
    rw [← Bool.not_eq_true, Interval.holds_iff hasParts] at belowOut aboveOut
    have belowLow : (interval.digitsBelow exponent * 10 ^ exponent : ℚ) ≤
        interval.low / interval.denominator := by
      by_contra! isMore
      refine belowOut ⟨isMore.le, by linarith, ?_⟩
      rintro (atLow | atHigh) <;> linarith
    have highAbove : (interval.high / interval.denominator : ℚ) ≤
        (interval.digitsBelow exponent + 1 : ℕ) * 10 ^ exponent := by
      by_contra! isLess
      refine aboveOut ⟨by linarith, isLess.le, ?_⟩
      rintro (atLow | atHigh) <;> linarith
    rw [Nat.cast_add_one, add_one_mul] at highAbove
    linarith

end Interval

/-! ## The interval of a number -/

section Number

variable {x : Binary64}

theorem quarter_unit (x : Binary64) :
    ((2 ^ (x.exponent - 2).toNat : ℕ) / (2 ^ (2 - x.exponent).toNat : ℕ) : ℚ) =
      2 ^ x.exponent / 4 := by
  have power := two_zpow_eq_ratio (x.exponent - 2)
  rw [neg_sub] at power
  rw [← power, zpow_sub₀ two_ne_zero]
  norm_num

theorem Interval.denominator_pos (x : Binary64) : 0 < (Interval.of x).denominator :=
  Nat.pow_pos two_pos

theorem Interval.of_ordered (nonzero : x.isZero = false) :
    (Interval.of x).low < (Interval.of x).value ∧
      (Interval.of x).value < (Interval.of x).high := by
  have positive := x.significand_pos nonzero
  have scale_pos : 0 < 2 ^ (x.exponent - 2).toNat := Nat.pow_pos two_pos
  simp only [Interval.of, Nat.pow_eq]
  constructor
  · exact Nat.mul_lt_mul_of_pos_right (by split <;> omega) scale_pos
  · exact Nat.mul_lt_mul_of_pos_right (by omega) scale_pos

/--
The interval of a number has the number in it and ends where the numbers next to it are as near.
-/
theorem Interval.of_ends (nonzero : x.isZero = false) :
    ((Interval.of x).low / (Interval.of x).denominator : ℚ) =
        (x.significand - x.reachDown) * 2 ^ x.exponent ∧
      ((Interval.of x).value / (Interval.of x).denominator : ℚ) =
        x.significand * 2 ^ x.exponent ∧
      ((Interval.of x).high / (Interval.of x).denominator : ℚ) =
        (x.significand + 1 / 2) * 2 ^ x.exponent := by
  have quarter := quarter_unit x
  have positive := x.significand_pos nonzero
  simp only [Interval.of, Nat.pow_eq]
  refine ⟨?_, ?_, ?_⟩
  · rw [Nat.cast_mul, mul_div_assoc, quarter, Binary64.reachDown]
    split
    · rw [Nat.cast_sub (by omega)]
      push_cast
      ring
    · rw [Nat.cast_sub (by omega)]
      push_cast
      ring
  · rw [Nat.cast_mul, mul_div_assoc, quarter]
    push_cast
    ring
  · rw [Nat.cast_mul, mul_div_assoc, quarter]
    push_cast
    ring

/-- The decimals in the interval of a number are those that are rounded to it. -/
theorem Interval.of_holds_iff (nonzero : x.isZero = false) (digits : ℕ) (exponent : ℤ) :
    (Interval.of x).holds digits exponent = true ↔ x.Catches (digits * 10 ^ exponent) := by
  have unit_pos : (0 : ℚ) < 2 ^ x.exponent := by positivity
  have closed : (Interval.of x).closed = true ↔ x.significand % 2 = 0 := by
    rw [Interval.of]
    exact beq_iff_eq
  rcases Interval.of_ends nonzero with ⟨low, -, high⟩
  rw [holds_iff (denominator_pos x), low, high, closed, ← le_div_iff₀ unit_pos,
    ← div_le_iff₀ unit_pos, ← div_eq_iff unit_pos.ne', ← div_eq_iff unit_pos.ne', or_imp]
  exact ⟨fun ⟨low, high, atLow, atHigh⟩ => ⟨low, high, atLow, atHigh⟩,
    fun caught => ⟨caught.low, caught.high, caught.even_of_low, caught.even_of_high⟩⟩

/-- The interval of a number is wider than the number over `10 ^ 16`. -/
theorem significand_lt_width (x : Binary64) :
    (x.significand : ℚ) < (1 / 2 + x.reachDown) * 10 ^ 16 := by
  rw [Binary64.reachDown]
  split
  · rename_i isPower
    have short : x.significand = Binary64.exponentWeight := by
      rw [Binary64.significand, if_neg (by omega), isPower.1, Nat.add_zero]
    rw [short]
    norm_num [Binary64.exponentWeight]
  · have : (x.significand : ℚ) < 2 * Binary64.exponentWeight := mod_cast x.significand_lt
    norm_num [Binary64.exponentWeight] at this ⊢
    linarith

/-- With seventeen digits the decimals lie closer together than the interval is wide. -/
theorem seventeen_digits_fine (nonzero : x.isZero = false) :
    (10 : ℚ) ^ (decade (Interval.of x).value (Interval.of x).denominator - 17) <
      (Interval.of x).high / (Interval.of x).denominator -
        (Interval.of x).low / (Interval.of x).denominator := by
  have hasValue := Nat.zero_lt_of_lt (Interval.of_ordered nonzero).1
  have unit_pos : (0 : ℚ) < 2 ^ x.exponent := by positivity
  have reached := pow_decade_le hasValue (Interval.denominator_pos x)
  generalize decade (Interval.of x).value (Interval.of x).denominator = top at reached ⊢
  rcases Interval.of_ends nonzero with ⟨low, value, high⟩
  rw [value] at reached
  rw [low, high]
  have grid : (10 : ℚ) ^ (top - 17) * 10 ^ 16 = 10 ^ (top - 1) := by
    rw [← zpow_natCast, ← zpow_add₀ (by norm_num)]
    congr 1
    push_cast
    ring
  have wide := mul_lt_mul_of_pos_right (significand_lt_width x) unit_pos
  linarith

/-- The shortest digits are those of a decimal that is rounded to the number. -/
theorem shortest_caught (tie : Tie) (nonzero : x.isZero = false) :
    x.Catches ((shortest tie x).digits * 10 ^ (shortest tie x).exponent) := by
  rcases Interval.of_ordered nonzero with ⟨low, high⟩
  rw [shortest]
  generalize grid_eq : decade (Interval.of x).value (Interval.of x).denominator = top
  have fine := seventeen_digits_fine nonzero
  rw [grid_eq] at fine
  have someFound : ((List.range' 1 17).findSome? fun count : ℕ =>
      nearestOnGrid tie (Interval.of x) (top - count)).isSome = true := by
    rw [List.findSome?_isSome_iff]
    exact ⟨17, by decide, nearestOnGrid_isSome tie (Interval.denominator_pos x) low high fine⟩
  rcases Option.isSome_iff_exists.mp someFound with ⟨found, isFound⟩
  rcases List.exists_of_findSome?_eq_some isFound with ⟨count, -, onGrid⟩
  rw [isFound, Option.getD_some, ← Interval.of_holds_iff nonzero]
  rcases nearestOnGrid_cases tie (Interval.of x) (top - count) with
    ⟨digits, isDigits, holds⟩ | ⟨isNone, -⟩
  · rw [onGrid] at isDigits
    obtain rfl := Option.some.inj isDigits
    exact holds
  · rw [isNone] at onGrid
    cases onGrid

end Number

end Decimal

end ApiShapes
