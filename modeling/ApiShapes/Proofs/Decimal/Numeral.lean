import ApiShapes.Proofs.Json.NumberText

/-!
# Decimal numerals

A numeral without a sign is written with digits, then maybe a point with more digits, then maybe the
letter `e` with a power of ten.  It is read from front to back, each part as long as there are
digits, and nothing may be left.  Main statement: a numeral whose parts have digits is read back
from its text.
-/

namespace ApiShapes.Decimal

/-- A numeral without a sign: digits, those behind the point, and the power of ten. -/
structure Numeral where
  whole : List Char
  fraction : Option (List Char)
  power : Option Int
  deriving Repr, DecidableEq

namespace Numeral

/-- The integer that all the digits come to. -/
def significand (numeral : Numeral) : Nat :=
  Nat.ofDigitChars 10 (numeral.whole ++ numeral.fraction.getD []) 0

/-- The power of ten of the last digit. -/
def exponent (numeral : Numeral) : Int :=
  numeral.power.getD 0 - (numeral.fraction.getD []).length

/-- Whether there is a fraction or a power of ten. -/
def isReal (numeral : Numeral) : Bool :=
  numeral.fraction.isSome || numeral.power.isSome

/-! ## Reading -/

/-- Takes the digits at the front of a text; there must be one. -/
def readDigits? (text : List Char) : Option (List Char × List Char) :=
  if text.takeWhile Char.isDigit = [] then
    none
  else
    some (text.takeWhile Char.isDigit, text.dropWhile Char.isDigit)

/-- Takes a point and the digits behind it, if the text goes on with a point. -/
def readFraction? : List Char → Option (Option (List Char) × List Char)
  | '.' :: text => (readDigits? text).map fun (digits, rest) => (some digits, rest)
  | text => some (none, text)

/-- Takes a sign, if the text goes on with one; also whether it is a minus. -/
def readSign : List Char → Bool × List Char
  | '-' :: text => (true, text)
  | '+' :: text => (false, text)
  | text => (false, text)

/-- Takes digits, maybe with a sign in front of them, as an integer. -/
def readInteger? (text : List Char) : Option (Int × List Char) :=
  (readDigits? (readSign text).2).map fun (digits, rest) =>
    ((if (readSign text).1 then -1 else 1) * Nat.ofDigitChars 10 digits 0, rest)

/-- Takes a power of ten, if the text goes on with the letter of one. -/
def readPower? : List Char → Option (Option Int × List Char)
  | 'e' :: text => (readInteger? text).map fun (power, rest) => (some power, rest)
  | 'E' :: text => (readInteger? text).map fun (power, rest) => (some power, rest)
  | text => some (none, text)

/-- The numeral that a text is, if it is one. -/
def read? (text : List Char) : Option Numeral := do
  let (whole, text) ← readDigits? text
  let (fraction, text) ← readFraction? text
  let (power, text) ← readPower? text
  if text = [] then some ⟨whole, fraction, power⟩ else none

/-! ## Writing -/

/-- The digits behind the point as they are written, if there are any. -/
def fractionText : Option (List Char) → List Char
  | none => []
  | some digits => '.' :: digits

/-- A power of ten as it is written, if there is one; it may carry a plus sign. -/
def powerText (plusSign : Bool) : Option Int → List Char
  | none => []
  | some power =>
      'e' :: ((if plusSign && 0 < power then ['+'] else []) ++ (toString power).toList)

/-- A numeral as it is written. -/
def text (plusSign : Bool) (numeral : Numeral) : List Char :=
  numeral.whole ++ (fractionText numeral.fraction ++ powerText plusSign numeral.power)

/-- Some digits and nothing else. -/
def AreDigits (digits : List Char) : Prop :=
  digits ≠ [] ∧ ∀ c ∈ digits, c.isDigit = true

/-- The parts of a numeral have digits. -/
structure WellFormed (numeral : Numeral) : Prop where
  whole : AreDigits numeral.whole
  fraction : ∀ digits ∈ numeral.fraction, AreDigits digits

/-- Digits are taken up to the first character that is none. -/
theorem readDigits?_append
    {digits rest : List Char} (areDigits : AreDigits digits)
    (stops : ∀ c ∈ rest.head?, c.isDigit = false) :
    readDigits? (digits ++ rest) = some (digits, rest) := by
  have atRest : rest.takeWhile Char.isDigit = [] ∧ rest.dropWhile Char.isDigit = rest := by
    cases rest with
    | nil => exact ⟨rfl, rfl⟩
    | cons c others => simp [stops c rfl]
  rw [readDigits?, List.takeWhile_append_of_pos areDigits.2,
    List.dropWhile_append_of_pos areDigits.2, atRest.1, atRest.2, List.append_nil,
    if_neg areDigits.1]

theorem areDigits_toDigits (n : Nat) : AreDigits (Nat.toDigits 10 n) :=
  ⟨Nat.toDigits_ne_nil, fun _ => Json.isDigit_of_mem_toDigits⟩

theorem areDigits_zero : AreDigits ['0'] :=
  areDigits_toDigits 0

theorem readSign_of_digits {digits : List Char} (areDigits : AreDigits digits) :
    readSign digits = (false, digits) := by
  rcases areDigits with ⟨nonempty, isDigit⟩
  rw [readSign.eq_def]
  split
  · exact absurd (isDigit '-' List.mem_cons_self) (by decide)
  · exact absurd (isDigit '+' List.mem_cons_self) (by decide)
  · rfl

/-- Behind its sign, an integer is read from its digits. -/
theorem readInteger?_eq
    {text : List Char} {negative : Bool} {n : Nat}
    (isSigned : readSign text = (negative, Nat.toDigits 10 n)) :
    readInteger? text = some ((if negative then -1 else 1) * (n : Int), []) := by
  have digits := @readDigits?_append _ [] (areDigits_toDigits n) (by simp)
  rw [List.append_nil] at digits
  simp only [readInteger?, isSigned, digits, Option.map_some, Nat.ofDigitChars_ten_toDigits]

/-- An integer is read back from its text, also if a plus sign stands in front of a positive one. -/
theorem readInteger?_toString (plusSign : Bool) (i : Int) :
    readInteger? ((if plusSign && 0 < i then ['+'] else []) ++ (toString i).toList) =
      some (i, []) := by
  by_cases negative : i < 0
  · have noPlus : ¬ (plusSign && decide (0 < i)) = true := by
      rw [decide_eq_false (by omega), Bool.and_false]
      exact Bool.false_ne_true
    rw [if_neg noPlus, List.nil_append, Json.toList_negative negative, readInteger?_eq rfl]
    congr 2
    rw [if_pos rfl]
    omega
  · obtain ⟨n, rfl⟩ := Int.eq_ofNat_of_zero_le (Int.not_lt.mp negative)
    have text : (toString (n : Int)).toList = Nat.toDigits 10 n := Json.toList_natural n
    rw [text]
    split
    · rw [List.singleton_append, readInteger?_eq rfl]
      simp
    · rw [List.nil_append, readInteger?_eq (readSign_of_digits (areDigits_toDigits n))]
      simp

/-- A power of ten is read back, or the lack of one. -/
theorem readPower?_powerText (plusSign : Bool) (power : Option Int) :
    readPower? (powerText plusSign power) = some (power, []) := by
  cases power with
  | none => rfl
  | some power => rw [powerText, readPower?, readInteger?_toString, Option.map_some]

/-- What comes behind the digits of a numeral can only be the letter of its power of ten. -/
theorem head?_powerText
    (plusSign : Bool) (power : Option Int) {c : Char}
    (isFirst : c ∈ (powerText plusSign power).head?) : c = 'e' := by
  cases power with
  | none => cases isFirst
  | some power => exact (Option.some.inj isFirst).symm

/-- The digits behind the point are read back, or the lack of them. -/
theorem readFraction?_fractionText
    {fraction : Option (List Char)} (areDigits : ∀ digits ∈ fraction, AreDigits digits)
    (plusSign : Bool) (power : Option Int) :
    readFraction? (fractionText fraction ++ powerText plusSign power) =
      some (fraction, powerText plusSign power) := by
  cases fraction with
  | none =>
      rw [fractionText, List.nil_append, readFraction?.eq_def]
      split
      · rename_i isPoint
        exact absurd (head?_powerText plusSign power (by rw [isPoint]; rfl)) (by decide)
      · rfl
  | some digits =>
      rw [fractionText, List.cons_append, readFraction?,
        readDigits?_append (areDigits digits rfl), Option.map_some]
      intro c isFirst
      rw [head?_powerText plusSign power isFirst]
      rfl

/-- A numeral is read back from its text. -/
theorem read?_text (plusSign : Bool) {numeral : Numeral} (wellFormed : numeral.WellFormed) :
    read? (numeral.text plusSign) = some numeral := by
  rcases numeral with ⟨whole, fraction, power⟩
  have stops : ∀ c ∈ (fractionText fraction ++ powerText plusSign power).head?,
      c.isDigit = false := by
    intro c isFirst
    cases fraction with
    | none =>
        rw [head?_powerText plusSign power isFirst]
        rfl
    | some digits =>
        obtain rfl := Option.some.inj isFirst
        rfl
  rw [text, read?, readDigits?_append wellFormed.whole stops]
  simp [readFraction?_fractionText wellFormed.fraction, readPower?_powerText]

end Numeral

end ApiShapes.Decimal
