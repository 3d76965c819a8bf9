import ApiShapes.Json.NumberText

/-!
# Texts of integers

An integer is written in decimal, with a minus sign if it is negative and without leading zeros.
Main statement: every integer of 64 bits, with a sign or without one, is read back as what it is,
and what stands behind it is left, as long as that does not go on with the number.
-/

namespace ApiShapes.Json

/-- A number is written as its decimal text.  Floating-point numbers are left out. -/
inductive Number.WrittenAs : Number → List Char → Prop
  | natural (n : UInt64) : WrittenAs (.natural n) (toString n.toNat).toList
  | negative {i : Int64} (isNegative : i.toInt < 0) :
      WrittenAs (.negative i) (toString i.toInt).toList

/-- A text does not go on with a number that ends before it. -/
def StopsNumber (text : List Char) : Prop :=
  ∀ c ∈ text.head?, c.isDigit = false ∧ c ≠ '.' ∧ c ≠ 'e' ∧ c ≠ 'E'

section Digits

/-- Digits are appended as long as the number that they come to has 64 bits. -/
theorem appendDigits_eq
    {digits : List Char} {significand : Nat}
    (fits : Nat.ofDigitChars 10 digits significand < significandBound) :
    appendDigits significand digits = (Nat.ofDigitChars 10 digits significand, []) := by
  induction digits generalizing significand with
  | nil => simp [appendDigits]
  | cons c rest ih =>
      rw [Nat.ofDigitChars_cons] at fits ⊢
      have next_eq : significand * 10 + digitValue c = 10 * significand + (c.toNat - '0'.toNat) := by
        rw [digitValue, Nat.mul_comm]
        rfl
      have grows : 10 * significand + (c.toNat - '0'.toNat) ≤
          Nat.ofDigitChars 10 rest (10 * significand + (c.toNat - '0'.toNat)) := by
        rw [Nat.ofDigitChars_eq_ofDigitChars_zero]
        exact Nat.le_trans (Nat.le_mul_of_pos_left _ (Nat.pow_pos (by decide)))
          (Nat.le_add_right _ _)
      rw [appendDigits, next_eq, if_pos (Nat.lt_of_le_of_lt grows fits), ih fits]

/-- The digits of a positive number do not begin with a zero. -/
theorem head?_toDigits {n : Nat} (positive : 0 < n) : (Nat.toDigits 10 n).head? ≠ some '0' := by
  induction n using Nat.strongRecOn with
  | ind n ih =>
      rw [Nat.toDigits_eq_if (by decide)]
      split
      · have notZero : n ≠ 0 := by omega
        simp [notZero]
      · have notZero := ih (n / 10) (by omega) (by omega)
        cases higher : Nat.toDigits 10 (n / 10) with
        | nil => exact absurd higher Nat.toDigits_ne_nil
        | cons first rest =>
            rw [higher] at notZero
            exact notZero

theorem isDigit_of_mem_toDigits {n : Nat} {c : Char} (member : c ∈ Nat.toDigits 10 n) :
    c.isDigit = true :=
  Nat.isDigit_of_mem_toDigits (by decide) (by decide) member

/-- A number has at least one digit. -/
theorem toDigits_begins (n : Nat) :
    ∃ c others, Nat.toDigits 10 n = c :: others ∧ c.isDigit = true := by
  cases digits : Nat.toDigits 10 n with
  | nil => exact absurd digits Nat.toDigits_ne_nil
  | cons c others =>
      have member : c ∈ Nat.toDigits 10 n := by simp [digits]
      exact ⟨c, others, rfl, isDigit_of_mem_toDigits member⟩

/-- A natural number is written with its digits. -/
theorem toList_natural (n : Nat) : (toString n).toList = Nat.toDigits 10 n := by
  rw [Nat.toString_eq_repr, Nat.toList_repr]

/-- A negative integer is written with a minus and the digits of its absolute value. -/
theorem toList_negative {i : Int} (isNegative : i < 0) :
    (toString i).toList = '-' :: Nat.toDigits 10 i.natAbs := by
  have magnitude : (-i).toNat = i.natAbs := by omega
  rw [Int.toString_eq_repr, Int.repr_eq_if, if_neg (by omega), String.toList_append,
    Nat.toList_repr, magnitude]
  rfl

/-- A number begins with a minus or a digit, which no other value does. -/
theorem Number.WrittenAs.begins {n : Number} {text : List Char} (written : n.WrittenAs text) :
    ∃ c others, text = c :: others ∧ (c = '-' ∨ c.isDigit = true) := by
  cases written with
  | natural n =>
      rcases toDigits_begins n.toNat with ⟨c, others, digits, isDigit⟩
      exact ⟨c, others, (toList_natural _).trans digits, .inr isDigit⟩
  | negative isNegative => exact ⟨_, _, toList_negative isNegative, .inl rfl⟩

/-- Where no fraction and no power of ten comes next, the number is the integer read so far. -/
theorem readAfterInteger_eq
    (negative : Bool) (significand : Nat) {rest : List Char} (stops : StopsNumber rest) :
    readAfterInteger negative significand 0 rest =
      .ok (integerNumber negative significand, rest) := by
  rw [readAfterInteger.eq_def]
  split
  · exact absurd rfl (stops '.' rfl).2.1
  · exact absurd rfl (stops 'e' rfl).2.2.1
  · exact absurd rfl (stops 'E' rfl).2.2.2
  · rfl

/-- The digits of a number are read as that number, up to what stops them. -/
theorem readUnsigned_eq
    (negative : Bool) {n : Nat} (fits : n < significandBound) {rest : List Char}
    (stops : StopsNumber rest) :
    readUnsigned negative (Nat.toDigits 10 n ++ rest) = .ok (integerNumber negative n, rest) := by
  have allDigits : ∀ c ∈ Nat.toDigits 10 n, c.isDigit = true := fun _ => isDigit_of_mem_toDigits
  have atRest : rest.takeWhile Char.isDigit = [] ∧ rest.dropWhile Char.isDigit = rest := by
    cases rest with
    | nil => exact ⟨rfl, rfl⟩
    | cons c others => simp [(stops c rfl).1]
  have takes : (Nat.toDigits 10 n ++ rest).takeWhile Char.isDigit = Nat.toDigits 10 n := by
    rw [List.takeWhile_append_of_pos allDigits, atRest.1, List.append_nil]
  have drops : (Nat.toDigits 10 n ++ rest).dropWhile Char.isDigit = rest := by
    rw [List.dropWhile_append_of_pos allDigits, atRest.2]
  have appended : appendDigits 0 (Nat.toDigits 10 n) = (n, []) := by
    rw [appendDigits_eq (by rwa [Nat.ofDigitChars_ten_toDigits]), Nat.ofDigitChars_ten_toDigits]
  rcases toDigits_begins n with ⟨c, others, digits, isDigit⟩
  have noLeadingZero : ¬ (c = '0' ∧ (others ++ rest).head?.any Char.isDigit = true) := by
    rintro ⟨rfl, another⟩
    rcases Nat.eq_zero_or_pos n with rfl | positive
    · obtain rfl : others = [] := by simpa using digits.symm
      cases rest with
      | nil => cases another
      | cons next _ => simp [(stops next rfl).1] at another
    · exact head?_toDigits positive (by rw [digits]; rfl)
  rw [digits] at takes drops appended ⊢
  rw [List.cons_append] at takes drops ⊢
  simp only [readUnsigned, isDigit, noLeadingZero, takes, drops, appended, Bool.not_true,
    Bool.false_eq_true, if_false]
  exact readAfterInteger_eq negative n stops

end Digits

theorem integerNumber_natural (n : UInt64) : integerNumber false n.toNat = .natural n := by
  simp [integerNumber]

theorem integerNumber_negative {i : Int64} (isNegative : i.toInt < 0) :
    integerNumber true i.toInt.natAbs = .negative i := by
  have low := i.le_toInt
  have bounds : 0 < i.toInt.natAbs ∧ i.toInt.natAbs ≤ signedBound := by
    rw [signedBound]
    omega
  have magnitude : -(i.toInt.natAbs : Int) = i.toInt := by omega
  rw [integerNumber, if_neg (by decide), if_pos bounds, magnitude, Int64.ofInt_toInt]

/-- Reading the decimal text of an integer gives the integer. -/
theorem readNumber_text
    {n : Number} {text : List Char} (written : n.WrittenAs text) {rest : List Char}
    (stops : StopsNumber rest) :
    readNumber (text ++ rest) = .ok (n, rest) := by
  cases written with
  | natural n =>
      have fits : n.toNat < significandBound := n.toNat_lt
      have reads := readUnsigned_eq false fits stops
      rcases toDigits_begins n.toNat with ⟨c, others, digits, isDigit⟩
      rw [digits] at reads
      rw [toList_natural, digits, List.cons_append, readNumber.eq_def]
      split
      · rename_i isMinus
        rw [(List.cons.inj isMinus).1] at isDigit
        cases isDigit
      · rw [← List.cons_append, reads, integerNumber_natural]
  | @negative i isNegative =>
      have low := i.le_toInt
      have fits : i.toInt.natAbs < significandBound := by
        rw [significandBound]
        omega
      rw [toList_negative isNegative, List.cons_append, readNumber,
        readUnsigned_eq true fits stops, integerNumber_negative isNegative]

end ApiShapes.Json
