import ApiShapes.Php.Literal
import ApiShapes.Proofs.Decimal.Layout

/-!
# Reading constants

PHP knows the type of a constant by how it is written: a numeral with a fraction or a power of ten
is a floating-point number, and so is one without them that is too large for an integer of 64 bits.
A minus in front is no part of the numeral but is carried out on its value.  Main statements: the
literals of truth values and of finite floating-point numbers are read as what they are written for,
and so are those of integers, except for the lowest one: its absolute value is no integer.
-/

namespace ApiShapes.Php

open Decimal

/-- A truth value or a number of PHP. -/
inductive Constant where
  | bool (b : Bool)
  | int (i : Int64)
  | float (x : Binary64)
  deriving Repr, DecidableEq

namespace Constant

/-- The type that a property must be declared with to hold a constant. -/
def type : Constant → String
  | bool _ => "bool"
  | int _ => "int"
  | float _ => "float"

/-- The largest integer. -/
def maxInteger : ℕ := 9223372036854775807

/--
The number that a numeral stands for.  Without a fraction and a power of ten it is an integer, if it
is not too large; a zero in front of other digits would make it an octal one, which is left out.
-/
def ofNumeral? (numeral : Numeral) : Option Constant :=
  let nearest := Binary64.ofDecimal numeral.significand numeral.exponent
  if numeral.isReal then some (float nearest)
  else if numeral.whole.head? = some '0' ∧ numeral.whole ≠ ['0'] then none
  else if numeral.significand ≤ maxInteger then some (int (.ofNat numeral.significand))
  else some (float nearest)

/-- A constant behind a minus.  A truth value is taken for a zero or a one. -/
def neg : Constant → Constant
  | bool b => int (if b then -1 else 0)
  | int i => int (-i)
  | float x => float x.neg

/-- A text without the minus in front of it, and whether there is one. -/
def splitMinus : List Char → Bool × List Char
  | '-' :: text => (true, text)
  | text => (false, text)

/-- The constant that a text is, if it is one. -/
def read? (text : List Char) : Option Constant :=
  if text = "true".toList then some (bool true)
  else if text = "false".toList then some (bool false)
  else
    let unsigned := (Numeral.read? (splitMinus text).2).bind ofNumeral?
    if (splitMinus text).1 then unsigned.map neg else unsigned

/-- A numeral with a fraction or a power of ten, and maybe a minus in front of it. -/
def IsFloatLiteral (text : List Char) : Prop :=
  ∃ numeral, Numeral.read? (splitMinus text).2 = some numeral ∧ numeral.isReal = true

/-! ## Numerals -/

section Numerals

variable {numeral : Numeral} (wellFormed : numeral.WellFormed) (plusSign : Bool)

include wellFormed

/-- A numeral begins with a digit. -/
theorem text_begins :
    ∃ c others, numeral.text plusSign = c :: others ∧ c.isDigit = true := by
  rcases wellFormed.whole with ⟨nonempty, isDigit⟩
  rcases List.exists_cons_of_ne_nil nonempty with ⟨c, others, whole⟩
  refine ⟨c, others ++ (Numeral.fractionText numeral.fraction ++
    Numeral.powerText plusSign numeral.power), ?_, isDigit c (by simp [whole])⟩
  rw [Numeral.text, whole, List.cons_append]

theorem splitMinus_numeral :
    splitMinus (numeral.text plusSign) = (false, numeral.text plusSign) := by
  rcases text_begins wellFormed plusSign with ⟨c, others, begins, isDigit⟩
  rw [begins, splitMinus.eq_def]
  split
  · rename_i isMinus
    rw [(List.cons.inj isMinus).1] at isDigit
    cases isDigit
  · rfl

/-- A numeral without a minus is read as what it stands for. -/
theorem read?_numeral : read? (numeral.text plusSign) = ofNumeral? numeral := by
  rcases text_begins wellFormed plusSign with ⟨c, others, begins, isDigit⟩
  have notWord (word : String) (noDigit : word.toList.head?.all (!·.isDigit) = true) :
      numeral.text plusSign ≠ word.toList := by
    intro isWord
    rw [← isWord, begins, List.head?_cons, Option.all_some, isDigit] at noDigit
    cases noDigit
  rw [read?, if_neg (notWord "true" rfl), if_neg (notWord "false" rfl),
    splitMinus_numeral wellFormed, Numeral.read?_text plusSign wellFormed]
  rfl

/-- A minus is carried out on the constant that the numeral behind it stands for. -/
theorem read?_minus : read? ('-' :: numeral.text plusSign) = (ofNumeral? numeral).map neg := by
  have notWord (word : String) (noMinus : word.toList.head? ≠ some '-') :
      '-' :: numeral.text plusSign ≠ word.toList := by
    intro isWord
    rw [← isWord] at noMinus
    exact noMinus rfl
  rw [read?, if_neg (notWord "true" (by decide)), if_neg (notWord "false" (by decide)), splitMinus,
    Numeral.read?_text plusSign wellFormed]
  rfl

end Numerals

/-! ## Literals -/

/-- The words for truth values are read as these. -/
theorem read?_bool (b : Bool) : read? (literal (.bool b)).toList = some (bool b) := by
  cases b <;> decide

/-- The numeral of a natural number. -/
def integerNumeral (n : ℕ) : Numeral :=
  ⟨Nat.toDigits 10 n, none, none⟩

theorem wellFormed_integerNumeral (n : ℕ) : (integerNumeral n).WellFormed :=
  ⟨Numeral.areDigits_toDigits n, nofun⟩

theorem text_integerNumeral (n : ℕ) : (integerNumeral n).text false = Nat.toDigits 10 n :=
  List.append_nil _

/--
The digits of a number stand for an integer up to the largest one, and for a floating-point number
beyond it.
-/
theorem ofNumeral?_integerNumeral (n : ℕ) :
    ofNumeral? (integerNumeral n) =
      if n ≤ maxInteger then some (int (.ofNat n)) else some (float (.ofDecimal n 0)) := by
  have significand : (integerNumeral n).significand = n := by
    rw [integerNumeral, Numeral.significand, Option.getD_none, List.append_nil,
      Nat.ofDigitChars_ten_toDigits]
  have notOctal :
      ¬ ((integerNumeral n).whole.head? = some '0' ∧ (integerNumeral n).whole ≠ ['0']) := by
    rintro ⟨zeroFirst, notZero⟩
    rcases Nat.eq_zero_or_pos n with rfl | positive
    · exact notZero rfl
    · exact Json.head?_toDigits positive zeroFirst
  rw [ofNumeral?, significand, if_neg notOctal]
  rfl

/-- The lowest integer is written as a numeral that is too large, with a minus. -/
theorem read?_integer (i : Int64) :
    read? (literal (.integer i)).toList =
      if i = Int64.minValue then some (float (Binary64.ofDecimal 9223372036854775808 0).neg)
      else some (int i) := by
  have isLowest : i = Int64.minValue ↔ i.toInt = -9223372036854775808 := by
    rw [← Int64.toInt_inj, Int64.toInt_minValue]
    norm_num
  have low := i.le_toInt
  have high := i.toInt_lt
  rw [literal]
  by_cases negative : i.toInt < 0
  · rw [Json.toList_negative negative, ← text_integerNumeral,
      read?_minus (wellFormed_integerNumeral _), ofNumeral?_integerNumeral, maxInteger]
    split
    · rename_i fits
      have notLowest : i ≠ Int64.minValue := by
        rw [ne_eq, isLowest]
        omega
      have value : -Int64.ofNat i.toInt.natAbs = i := by
        rw [← Int64.ofInt_eq_ofNat, ← Int64.ofInt_neg, Int.ofNat_natAbs_of_nonpos negative.le,
          Int.neg_neg, Int64.ofInt_toInt]
      rw [if_neg notLowest, Option.map_some, neg, value]
    · rename_i tooLarge
      have magnitude : i.toInt.natAbs = 9223372036854775808 := by omega
      rw [if_pos (isLowest.mpr (by omega)), Option.map_some, neg, magnitude]
  · obtain ⟨n, isNatural⟩ := Int.eq_ofNat_of_zero_le (Int.not_lt.mp negative)
    have text : (toString (n : ℤ)).toList = Nat.toDigits 10 n := Json.toList_natural n
    have notLowest : i ≠ Int64.minValue := by
      rw [ne_eq, isLowest]
      omega
    have value : Int64.ofNat n = i := by
      rw [← Int64.ofInt_eq_ofNat, ← isNatural, Int64.ofInt_toInt]
    have fits : n ≤ maxInteger := by
      rw [maxInteger]
      omega
    rw [isNatural, text, ← text_integerNumeral, read?_numeral (wellFormed_integerNumeral n),
      ofNumeral?_integerNumeral, if_pos fits, value, if_neg notLowest]

/-- A finite floating-point number is read as itself. -/
theorem read?_float {x : Binary64} (finite : x.IsFinite) :
    read? (literal (.float x)).toList = some (float x) ∧
      IsFloatLiteral (literal (.float x)).toList := by
  have notNaN : x.isNaN = false := decide_eq_false (Nat.not_lt_of_gt finite)
  have notInfinite : x.isInfinite = false := beq_false_of_ne (Nat.ne_of_lt finite)
  rcases absText_numeral floatLayout finite with ⟨numeral, text, wellFormed, isReal, rounded⟩
  have unsigned : ofNumeral? numeral = some (float (.ofMagnitude false x.magnitude)) := by
    rw [ofNumeral?, if_pos isReal, rounded]
  have written : (literal (.float x)).toList =
      (if x.isNegative then ['-'] else []) ++ numeral.text floatLayout.plusSign := by
    rw [literal, Layout.text, notNaN, if_neg Bool.false_ne_true, notInfinite,
      if_neg Bool.false_ne_true, String.toList_ofList, text]
  have whole := x.ofMagnitude_magnitude
  cases sign : x.isNegative with
  | false =>
      rw [written, sign, if_neg Bool.false_ne_true, List.nil_append]
      rw [sign] at whole
      refine ⟨?_, numeral, ?_, isReal⟩
      · rw [read?_numeral wellFormed, unsigned, whole]
      · rw [splitMinus_numeral wellFormed, Numeral.read?_text _ wellFormed]
  | true =>
      have isMagnitude : x.magnitude < Binary64.signWeight := Nat.mod_lt _ (by decide)
      rw [written, sign, if_pos rfl, List.singleton_append]
      rw [sign, ← Binary64.neg_ofMagnitude isMagnitude] at whole
      refine ⟨?_, numeral, ?_, isReal⟩
      · rw [read?_minus wellFormed, unsigned, Option.map_some, neg, whole]
      · rw [splitMinus, Numeral.read?_text _ wellFormed]

end Constant

end ApiShapes.Php
