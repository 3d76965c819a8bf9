import ApiShapes.Json.Value
import ApiShapes.Json.Fault

/-!
# Reading a JSON number

The digits of a number are gathered into a significand of 64 bits and a power of ten.  Integer
digits for which the significand has no room raise the power, fraction digits without room are
dropped.  A number without fraction, exponent and dropped digits is an integer; all others are
floating-point numbers, computed from the significand by one multiplication or division by a power
of ten, which is not always the nearest number.
-/

namespace ApiShapes.Json

/-- The value of a decimal digit. -/
def digitValue (c : Char) : Nat :=
  c.toNat - 48

/-- The least natural number that a significand of 64 bits has no room for. -/
def significandBound : Nat := 0x10000000000000000

/-- Appends digits to a significand as long as there is room; also the digits left. -/
def appendDigits (significand : Nat) : List Char → Nat × List Char
  | [] => (significand, [])
  | c :: rest =>
      if significand * 10 + digitValue c < significandBound then
        appendDigits (significand * 10 + digitValue c) rest
      else
        (significand, c :: rest)

/-- The largest exponent that is read as one. -/
def exponentLimit : Nat := 0x7fffffff

/-- The value of exponent digits, or else the digits behind the one that passes the limit. -/
def exponentValue (value : Nat) : List Char → Except (List Char) Nat
  | [] => .ok value
  | c :: rest =>
      if value * 10 + digitValue c ≤ exponentLimit then
        exponentValue (value * 10 + digitValue c) rest
      else
        .error rest

/-- The power of ten as a floating-point number. -/
def powerOfTen (power : Nat) : Binary64 :=
  .ofNat (Nat.pow 10 power)

/--
The floating-point number of a magnitude times a power of ten; there is none when the product is
infinite.  A power of ten that is no floating-point number is reached in steps.
-/
def scale (x : Binary64) (power : Int) : Option Binary64 :=
  if power.natAbs ≤ 308 then
    if 0 ≤ power then
      let product := x.mulAbs (powerOfTen power.natAbs)
      if product.isInfinite then none else some product
    else
      some (x.divAbs (powerOfTen power.natAbs))
  else if x.isZero then
    some x
  else if 0 < power then
    none
  else
    scale (x.divAbs (powerOfTen 308)) (power + 308)
termination_by (-power).toNat
decreasing_by omega

/-- Gives a magnitude its sign. -/
def withSign (negative : Bool) (x : Binary64) : Binary64 :=
  if negative then x.neg else x

/-- The number of an integer significand; a negative zero is a floating-point number. -/
def integerNumber (negative : Bool) (significand : Nat) : Number :=
  if !negative then .natural (.ofNat significand)
  else if 0 < significand ∧ significand ≤ signedBound then .negative (.ofInt (-significand))
  else .real (Binary64.ofNat significand).neg

/-- The floating-point number of a significand and a power of ten, in front of `rest`. -/
def realNumber (negative : Bool) (significand : Nat) (power : Int) (rest : List Char) :
    Except Fault (Number × List Char) :=
  match scale (.ofNat significand) power with
  | some x => .ok (.real (withSign negative x), rest)
  | none => .error (.before .numberOutOfRange rest)

/-- Reads the digits of an exponent, which lowers the power of ten or raises it. -/
def readExponentDigits (negative : Bool) (significand : Nat) (power : Int) (lowers : Bool)
    (text : List Char) : Except Fault (Number × List Char) :=
  match text with
  | [] => .error (.before .endInValue [])
  | c :: _ =>
      if !c.isDigit then
        .error (.inFirst .invalidNumber text)
      else
        let rest := text.dropWhile Char.isDigit
        match exponentValue 0 (text.takeWhile Char.isDigit) with
        | .ok value =>
            realNumber negative significand (if lowers then power - value else power + value) rest
        | .error behind =>
            if significand ≠ 0 ∧ !lowers then
              .error (.before .numberOutOfRange (behind ++ rest))
            else
              .ok (.real (withSign negative ⟨0⟩), rest)

/-- Reads what follows the letter of an exponent. -/
def readExponent (negative : Bool) (significand : Nat) (power : Int) (text : List Char) :
    Except Fault (Number × List Char) :=
  match text with
  | '+' :: rest => readExponentDigits negative significand power false rest
  | '-' :: rest => readExponentDigits negative significand power true rest
  | _ => readExponentDigits negative significand power false text

/-- Reads the exponent, if the text goes on with one. -/
def readScale (negative : Bool) (significand : Nat) (power : Int) (text : List Char) :
    Except Fault (Number × List Char) :=
  match text with
  | 'e' :: rest => readExponent negative significand power rest
  | 'E' :: rest => readExponent negative significand power rest
  | _ => realNumber negative significand power text

/-- Reads what follows the point. -/
def readFraction (negative : Bool) (significand : Nat) (power : Int) (text : List Char) :
    Except Fault (Number × List Char) :=
  match text with
  | [] => .error (.before .endInValue [])
  | c :: _ =>
      if !c.isDigit then
        .error (.inFirst .invalidNumber text)
      else
        let digits := text.takeWhile Char.isDigit
        let appended := appendDigits significand digits
        readScale negative appended.1 (power - (digits.length - appended.2.length : Nat))
          (text.dropWhile Char.isDigit)

/-- Reads what follows the integer digits, of which `dropped` found no room. -/
def readAfterInteger (negative : Bool) (significand dropped : Nat) (text : List Char) :
    Except Fault (Number × List Char) :=
  match text with
  | '.' :: rest => readFraction negative significand dropped rest
  | 'e' :: _ => readScale negative significand dropped text
  | 'E' :: _ => readScale negative significand dropped text
  | _ =>
      if dropped = 0 then .ok (integerNumber negative significand, text)
      else realNumber negative significand dropped text

/-- Reads a number behind its sign. -/
def readUnsigned (negative : Bool) (text : List Char) : Except Fault (Number × List Char) :=
  match text with
  | [] => .error (.before .endInValue [])
  | c :: rest =>
      if !c.isDigit then
        .error (.inFirst .invalidNumber text)
      else if c = '0' ∧ (rest.head?.any Char.isDigit) then
        .error (.inFirst .invalidNumber rest)
      else
        let appended := appendDigits 0 (text.takeWhile Char.isDigit)
        readAfterInteger negative appended.1 appended.2.length (text.dropWhile Char.isDigit)

/-- Reads the number at the front of a text that starts with a minus sign or a digit. -/
def readNumber (text : List Char) : Except Fault (Number × List Char) :=
  match text with
  | '-' :: rest => readUnsigned true rest
  | _ => readUnsigned false text

/-! ## What is left of the text -/

theorem dropDigits_length (text : List Char) :
    (text.dropWhile Char.isDigit).length ≤ text.length :=
  (List.dropWhile_sublist _).length_le

/-- Making a real number out of its parts reads nothing more. -/
theorem realNumber_rest {negative : Bool} {significand : Nat} {power : Int}
    {text rest : List Char} {n : Number}
    (h : realNumber negative significand power text = .ok (n, rest)) : rest = text := by
  unfold realNumber at h
  split at h <;> simp_all

/-- The digits of a power of ten are taken from the front of the text. -/
theorem readExponentDigits_length {negative lowers : Bool} {significand : Nat} {power : Int}
    {text rest : List Char} {n : Number}
    (h : readExponentDigits negative significand power lowers text = .ok (n, rest)) :
    rest.length ≤ text.length := by
  unfold readExponentDigits at h
  split at h
  · simp at h
  · split at h
    · simp at h
    · dsimp only at h
      split at h
      · rw [realNumber_rest h]
        exact dropDigits_length _
      · split at h
        · simp at h
        · simp only [Except.ok.injEq, Prod.mk.injEq] at h
          rw [← h.2]
          exact dropDigits_length _

theorem readExponent_length {negative : Bool} {significand : Nat} {power : Int}
    {text rest : List Char} {n : Number}
    (h : readExponent negative significand power text = .ok (n, rest)) :
    rest.length ≤ text.length := by
  unfold readExponent at h
  split at h
  · exact Nat.le_succ_of_le (readExponentDigits_length h)
  · exact Nat.le_succ_of_le (readExponentDigits_length h)
  · exact readExponentDigits_length h

/-- Looking for a power of ten does not make the text longer. -/
theorem readScale_length {negative : Bool} {significand : Nat} {power : Int}
    {text rest : List Char} {n : Number}
    (h : readScale negative significand power text = .ok (n, rest)) :
    rest.length ≤ text.length := by
  unfold readScale at h
  split at h
  · exact Nat.le_succ_of_le (readExponent_length h)
  · exact Nat.le_succ_of_le (readExponent_length h)
  · exact Nat.le_of_eq (congrArg List.length (realNumber_rest h))

theorem readFraction_length {negative : Bool} {significand : Nat} {power : Int}
    {text rest : List Char} {n : Number}
    (h : readFraction negative significand power text = .ok (n, rest)) :
    rest.length ≤ text.length := by
  unfold readFraction at h
  split at h
  · simp at h
  · split at h
    · simp at h
    · exact Nat.le_trans (readScale_length h) (dropDigits_length _)

/-- What comes behind the integer digits is taken from the front of the text. -/
theorem readAfterInteger_length {negative : Bool} {significand dropped : Nat}
    {text rest : List Char} {n : Number}
    (h : readAfterInteger negative significand dropped text = .ok (n, rest)) :
    rest.length ≤ text.length := by
  unfold readAfterInteger at h
  split at h
  · exact Nat.le_succ_of_le (readFraction_length h)
  · exact readScale_length h
  · exact readScale_length h
  · split at h
    · simp_all
    · exact Nat.le_of_eq (congrArg List.length (realNumber_rest h))

/-- A number without a sign has at least one digit, so reading it makes the text shorter. -/
theorem readUnsigned_length {negative : Bool} {text rest : List Char} {n : Number}
    (h : readUnsigned negative text = .ok (n, rest)) : rest.length < text.length := by
  unfold readUnsigned at h
  split at h
  · simp at h
  · rename_i c behind
    split at h
    · simp at h
    · rename_i digit
      split at h
      · simp at h
      · refine Nat.lt_of_le_of_lt (readAfterInteger_length h) ?_
        have head : c.isDigit = true := by simpa using digit
        rw [List.dropWhile_cons_of_pos head, List.length_cons]
        exact Nat.lt_succ_of_le (dropDigits_length behind)

/-- Reading a number takes at least one character. -/
theorem readNumber_length {text rest : List Char} {n : Number}
    (h : readNumber text = .ok (n, rest)) : rest.length < text.length := by
  unfold readNumber at h
  split at h
  · exact Nat.lt_succ_of_lt (readUnsigned_length h)
  · exact readUnsigned_length h

end ApiShapes.Json
