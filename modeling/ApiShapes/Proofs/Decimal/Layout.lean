import ApiShapes.Decimal.Layout
import ApiShapes.Proofs.Decimal.Numeral
import ApiShapes.Proofs.Decimal.Shortest

/-!
# The texts of floating-point numbers are numerals

Both forms in which a number is written are numerals with a fraction or a power of ten.  Zeros that
fill up before the digits do not count, and a zero behind them is made up for by the place of the
point, so the numeral stands for the digits at their place.  Main statement: the text of a finite
number is a numeral that is rounded to the number.
-/

namespace ApiShapes.Decimal

/-- The rational that a numeral stands for. -/
def Numeral.value (numeral : Numeral) : ℚ :=
  numeral.significand * 10 ^ numeral.exponent

/-! ## Zeros around digits -/

/-- Zeros in front of digits count for nothing. -/
theorem ofDigitChars_leadingZeros (count : ℕ) (digits : List Char) :
    Nat.ofDigitChars 10 (List.replicate count '0' ++ digits) 0 = Nat.ofDigitChars 10 digits 0 := by
  rw [Nat.ofDigitChars_append, Nat.ofDigitChars_replicate_zero, Nat.mul_zero]

/-- Each zero behind digits multiplies by ten. -/
theorem ofDigitChars_trailingZeros (digits : List Char) (count : ℕ) :
    Nat.ofDigitChars 10 (digits ++ List.replicate count '0') 0 =
      Nat.ofDigitChars 10 digits 0 * 10 ^ count := by
  rw [Nat.ofDigitChars_append, Nat.ofDigitChars_replicate_zero, Nat.mul_comm]

/-- A positive number has as many digits as are counted. -/
theorem length_toDigits {n : ℕ} (positive : 0 < n) : (Nat.toDigits 10 n).length = digitCount n := by
  induction n using Nat.strongRecOn with
  | ind n ih =>
      rw [Nat.toDigits_eq_if (by decide), digitCount, dif_neg positive.ne']
      split
      · rename_i isDigit
        rw [Nat.div_eq_of_lt isDigit, digitCount, dif_pos rfl, List.length_singleton]
      · rw [List.length_append, ih (n / 10) (by omega) (by omega), List.length_singleton]

/-- The significant digits are all digits but some zeros at the end. -/
theorem toDigits_eq_significantDigits (n : ℕ) :
    ∃ zeros, Nat.toDigits 10 n = significantDigits n ++ List.replicate zeros '0' := by
  have split := congrArg List.reverse
    (List.takeWhile_append_dropWhile (p := (· = '0')) (l := (Nat.toDigits 10 n).reverse))
  rw [List.reverse_append, List.reverse_reverse, ← significantDigits] at split
  refine ⟨_, split.symm.trans (congrArg _ (List.eq_replicate_length.mpr ?_))⟩
  intro c member
  simpa using List.all_eq_true.mp List.all_takeWhile c (List.mem_reverse.mp member)

theorem areDigits_significantDigits {n : ℕ} (positive : 0 < n) :
    Numeral.AreDigits (significantDigits n) := by
  rcases toDigits_eq_significantDigits n with ⟨zeros, digits⟩
  constructor
  · intro isEmpty
    have value := @Nat.ofDigitChars_ten_toDigits n
    rw [digits, isEmpty, List.nil_append, Nat.ofDigitChars_replicate_zero, Nat.mul_zero] at value
    exact positive.ne value
  · intro c member
    apply Json.isDigit_of_mem_toDigits (n := n)
    rw [digits]
    exact List.mem_append_left _ member

/-! ## The two forms -/

/-- The numeral of digits that are written plainly, with the point after the first `before`. -/
def plainNumeral (digits : List Char) (before : ℤ) : Numeral :=
  let padded := List.replicate (1 - before).toNat '0' ++ digits
  let place := (max before 1).toNat
  { whole := padded.take place ++ List.replicate (place - padded.length) '0'
    fraction := some (if (padded.drop place).isEmpty then ['0'] else padded.drop place)
    power := none }

/-- The numeral of digits that are written with the power of ten of the first one. -/
def scientificNumeral (digits : List Char) (power : ℤ) : Numeral where
  whole := digits.take 1
  fraction := if (digits.drop 1).isEmpty then none else some (digits.drop 1)
  power := some power

/-- The plain text is that of a numeral without a power of ten. -/
theorem plainText_eq (plusSign : Bool) (digits : List Char) (before : ℤ) :
    plainText digits before = (plainNumeral digits before).text plusSign := by
  simp only [Numeral.text, plainNumeral, Numeral.fractionText, Numeral.powerText, List.append_nil]
  rfl

/-- The scientific text is that of a numeral with a power of ten. -/
theorem scientificText_eq (plusSign : Bool) (digits : List Char) (power : ℤ) :
    scientificText plusSign digits power = (scientificNumeral digits power).text plusSign := by
  simp only [Numeral.text, scientificNumeral, Numeral.powerText, scientificText]
  rw [List.append_assoc]
  congr 2
  split <;> rfl

/-- The digits of a plain numeral are the given ones between zeros. -/
theorem plainNumeral_parts (digits : List Char) (before : ℤ) :
    ∃ fraction zeros, (plainNumeral digits before).fraction = some fraction ∧ fraction ≠ [] ∧
      (plainNumeral digits before).whole ≠ [] ∧
      (plainNumeral digits before).whole ++ fraction =
        List.replicate (1 - before).toNat '0' ++ (digits ++ List.replicate zeros '0') ∧
      (fraction.length : ℤ) = digits.length + zeros - before := by
  rw [plainNumeral]
  generalize padded_eq : List.replicate (1 - before).toNat '0' ++ digits = padded
  generalize place_eq : (max before 1).toNat = place
  have length := congrArg List.length padded_eq
  rw [List.length_append, List.length_replicate] at length
  have wholeNonempty : padded.take place ++ List.replicate (place - padded.length) '0' ≠ [] := by
    apply List.ne_nil_of_length_pos
    rw [List.length_append, List.length_take, List.length_replicate]
    omega
  by_cases isLong : place < padded.length
  · have goesOn : padded.drop place ≠ [] := by
      rwa [ne_eq, List.drop_eq_nil_iff, not_le]
    refine ⟨padded.drop place, 0, ?_, goesOn, wholeNonempty, ?_, ?_⟩
    · simp [goesOn]
    · rw [Nat.sub_eq_zero_of_le isLong.le, List.replicate_zero, List.append_nil, List.append_nil,
        List.take_append_drop, padded_eq]
    · rw [List.length_drop]
      omega
  · have ends : padded.drop place = [] := List.drop_eq_nil_iff.mpr (Nat.le_of_not_lt isLong)
    refine ⟨['0'], place - padded.length + 1, ?_, List.cons_ne_nil _ _, wholeNonempty, ?_, ?_⟩
    · simp [ends]
    · rw [List.take_of_length_le (Nat.le_of_not_lt isLong), ← List.append_assoc, padded_eq,
        List.append_assoc, List.replicate_succ']
    · rw [List.length_singleton]
      omega

section Forms

variable {digits : List Char} (areDigits : Numeral.AreDigits digits)

include areDigits

theorem wellFormed_plainNumeral (before : ℤ) : (plainNumeral digits before).WellFormed := by
  rcases plainNumeral_parts digits before with
    ⟨fraction, zeros, isFraction, fractionNonempty, wholeNonempty, parts, -⟩
  have isDigit : ∀ c ∈ (plainNumeral digits before).whole ++ fraction, c.isDigit = true := by
    intro c member
    rw [parts] at member
    simp only [List.mem_append, List.mem_replicate] at member
    rcases member with ⟨-, rfl⟩ | inDigits | ⟨-, rfl⟩
    · rfl
    · exact areDigits.2 c inDigits
    · rfl
  constructor
  · exact ⟨wholeNonempty, fun c member => isDigit c (List.mem_append_left _ member)⟩
  · intro written isWritten
    obtain rfl : fraction = written := Option.some.inj (isFraction.symm.trans isWritten)
    exact ⟨fractionNonempty, fun c member => isDigit c (List.mem_append_right _ member)⟩

theorem wellFormed_scientificNumeral (power : ℤ) : (scientificNumeral digits power).WellFormed := by
  rcases areDigits with ⟨nonempty, isDigit⟩
  constructor
  · refine ⟨?_, fun c member => isDigit c (List.mem_of_mem_take member)⟩
    rw [scientificNumeral, ne_eq, List.take_eq_nil_iff]
    simp [nonempty]
  · intro written isWritten
    rw [scientificNumeral] at isWritten
    split at isWritten
    · cases isWritten
    · rename_i goesOn
      obtain rfl := Option.some.inj isWritten
      exact ⟨by simpa using goesOn, fun c member => isDigit c (List.mem_of_mem_drop member)⟩

end Forms

/-- A plain numeral stands for the digits, with the point behind the first `before` of them. -/
theorem value_plainNumeral (digits : List Char) (before : ℤ) :
    (plainNumeral digits before).value =
      Nat.ofDigitChars 10 digits 0 * 10 ^ (before - digits.length) := by
  rcases plainNumeral_parts digits before with ⟨fraction, zeros, isFraction, -, -, parts, length⟩
  have significand : (plainNumeral digits before).significand =
      Nat.ofDigitChars 10 digits 0 * 10 ^ zeros := by
    rw [Numeral.significand, isFraction, Option.getD_some, parts, ofDigitChars_leadingZeros,
      ofDigitChars_trailingZeros]
  have exponent : (plainNumeral digits before).exponent = before - digits.length - zeros := by
    rw [Numeral.exponent, isFraction, Option.getD_some, length, plainNumeral, Option.getD_none]
    ring
  rw [Numeral.value, significand, exponent, zpow_sub₀ (by norm_num), zpow_natCast]
  push_cast
  field_simp

/-- A scientific numeral stands for the digits, with the power of ten of the first one. -/
theorem value_scientificNumeral {digits : List Char} (nonempty : digits ≠ []) (power : ℤ) :
    (scientificNumeral digits power).value =
      Nat.ofDigitChars 10 digits 0 * 10 ^ (power + 1 - digits.length) := by
  have length := List.length_pos_of_ne_nil nonempty
  have fraction : (scientificNumeral digits power).fraction.getD [] = digits.drop 1 := by
    rw [scientificNumeral]
    split
    · rename_i ends
      exact (List.isEmpty_iff.mp ends).symm
    · rfl
  have significand : (scientificNumeral digits power).significand =
      Nat.ofDigitChars 10 digits 0 := by
    rw [Numeral.significand, fraction, scientificNumeral, List.take_append_drop]
  have exponent : (scientificNumeral digits power).exponent = power + 1 - digits.length := by
    rw [Numeral.exponent, fraction, List.length_drop, scientificNumeral, Option.getD_some]
    omega
  rw [Numeral.value, significand, exponent]

/-! ## The text of a number -/

/-- The significant digits stand for all the digits, at the place of the first one. -/
theorem significantDigits_value {n : ℕ} (positive : 0 < n) (exponent : ℤ) :
    (Nat.ofDigitChars 10 (significantDigits n) 0 : ℚ) *
      10 ^ (exponent + digitCount n - (significantDigits n).length) = n * 10 ^ exponent := by
  rcases toDigits_eq_significantDigits n with ⟨zeros, digits⟩
  have value := @Nat.ofDigitChars_ten_toDigits n
  have length := length_toDigits positive
  rw [digits, ofDigitChars_trailingZeros] at value
  rw [digits, List.length_append, List.length_replicate] at length
  have place : exponent + digitCount n - (significantDigits n).length = zeros + exponent := by
    omega
  rw [place, zpow_add₀ (by norm_num), zpow_natCast, ← mul_assoc]
  congr 1
  exact mod_cast value

/-- The text of a finite number is a numeral that is rounded to the number, but for its sign. -/
theorem absText_numeral (layout : Layout) {x : Binary64} (finite : x.IsFinite) :
    ∃ numeral : Numeral, layout.absText x = numeral.text layout.plusSign ∧ numeral.WellFormed ∧
      numeral.isReal = true ∧
      Binary64.ofDecimal numeral.significand numeral.exponent =
        Binary64.ofMagnitude false x.magnitude := by
  rw [Layout.absText]
  by_cases isZero : x.isZero = true
  · have magnitude : x.magnitude = 0 := beq_iff_eq.mp isZero
    refine ⟨⟨['0'], some ['0'], none⟩, if_pos isZero, ⟨Numeral.areDigits_zero, ?_⟩, rfl, ?_⟩
    · rintro _ ⟨⟩
      exact Numeral.areDigits_zero
    · rw [magnitude]
      rfl
  · have nonzero := Bool.eq_false_of_not_eq_true isZero
    have caught := shortest_caught layout.tie nonzero
    rw [if_neg isZero]
    generalize shortest layout.tie x = decimal at caught ⊢
    have hasDigits : 0 < decimal.digits := by
      by_contra isNone
      have positive := caught.pos nonzero
      rw [Nat.eq_zero_of_not_pos isNone, Nat.cast_zero, zero_mul] at positive
      exact positive.false
    have areDigits := areDigits_significantDigits hasDigits
    have value := significantDigits_value hasDigits decimal.exponent
    have rounded {numeral : Numeral}
        (isDecimal : numeral.value = decimal.digits * 10 ^ decimal.exponent) :
        Binary64.ofDecimal numeral.significand numeral.exponent =
          Binary64.ofMagnitude false x.magnitude := by
      rw [← isDecimal] at caught
      exact Binary64.ofDecimal_of_catches caught finite nonzero
    dsimp only
    generalize significantDigits decimal.digits = digits at areDigits value ⊢
    generalize decimal.exponent + digitCount decimal.digits = before at value ⊢
    split
    · refine ⟨plainNumeral digits before, plainText_eq _ _ _, wellFormed_plainNumeral areDigits _,
        rfl, rounded ?_⟩
      rw [value_plainNumeral, value]
    · refine ⟨scientificNumeral digits (before - 1), scientificText_eq _ _ _,
        wellFormed_scientificNumeral areDigits _, Bool.or_true _, rounded ?_⟩
      rw [value_scientificNumeral areDigits.1, sub_add_cancel, value]

end ApiShapes.Decimal
