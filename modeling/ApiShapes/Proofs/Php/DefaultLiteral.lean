import ApiShapes.Proofs.Json.NumberText
import ApiShapes.Proofs.Php.StringLiteral

/-!
# Telling default values apart

A default value is written as a literal and ends with a semicolon.  The text of a number is made of
few characters, none of them a quote or a semicolon, and the text of a floating-point number always
has one that no integer has; so the text alone shows the kind of the value.  Main statements: a
literal is read back up to its semicolon, and two values with one text are the same, where
floating-point numbers are taken by their texts.
-/

namespace ApiShapes

open Text Text.Reader

namespace Literal

/-- The kind of a default value. -/
inductive Kind where
  | bool
  | integer
  | float
  | string
  deriving Repr, DecidableEq

/-- The kind of a default value. -/
def kind : Literal → Kind
  | .bool _ => .bool
  | .integer _ => .integer
  | .float _ => .float
  | .string _ => .string

/-- Two default values are the same, floating-point numbers by their texts. -/
inductive SameShown : Literal → Literal → Prop
  | bool (b : Bool) : SameShown (.bool b) (.bool b)
  | integer (i : Int64) : SameShown (.integer i) (.integer i)
  | float {x y : Binary64} (sameText : Php.floatLayout.text x = Php.floatLayout.text y) :
      SameShown (.float x) (.float y)
  | string (s : String) : SameShown (.string s) (.string s)

end Literal

namespace Php

/-- Whether a character can be in the text of an integer. -/
def isIntegerChar (c : Char) : Bool :=
  c.isDigit || c == '-'

/-- Whether a character can be in the text of a floating-point number. -/
def isFloatChar (c : Char) : Bool :=
  isIntegerChar c || ['.', 'e', '+', 'N', 'a', 'i', 'n', 'f'].contains c

/-- The kind of the default value that a text is the literal of. -/
def kindOfText (text : List Char) : Literal.Kind :=
  if text.head? = some '\x27' then .string
  else if text.all isIntegerChar then .integer
  else if text.all isFloatChar then .float
  else .bool

/-! ## The characters of numbers -/

theorem isFloatChar_of_isIntegerChar {c : Char} (integer : isIntegerChar c = true) :
    isFloatChar c = true := by
  rw [isFloatChar, integer, Bool.true_or]

theorem isFloatChar_of_isDigit {c : Char} (digit : c.isDigit = true) : isFloatChar c = true := by
  apply isFloatChar_of_isIntegerChar
  rw [isIntegerChar, digit, Bool.true_or]

/-- The text of an integer is made of digits and a minus. -/
theorem isIntegerChar_of_mem {i : Int} {c : Char} (member : c ∈ (toString i).toList) :
    isIntegerChar c = true := by
  rw [isIntegerChar, Bool.or_eq_true, beq_iff_eq]
  by_cases negative : i < 0
  · rw [Json.toList_negative negative] at member
    rcases List.mem_cons.mp member with rfl | digit
    · exact .inr rfl
    · exact .inl (Json.isDigit_of_mem_toDigits digit)
  · obtain ⟨n, rfl⟩ := Int.eq_ofNat_of_zero_le (Int.not_lt.mp negative)
    exact .inl (Json.isDigit_of_mem_toDigits (by rwa [← Json.toList_natural]))

/-- The integer that a decimal text stands for. -/
def integerOfText : List Char → Int
  | '-' :: digits => -Nat.ofDigitChars 10 digits 0
  | digits => Nat.ofDigitChars 10 digits 0

/-- An integer is read back from its text. -/
theorem integerOfText_toString (i : Int) : integerOfText (toString i).toList = i := by
  by_cases negative : i < 0
  · rw [Json.toList_negative negative, integerOfText, Nat.ofDigitChars_ten_toDigits]
    omega
  · obtain ⟨n, rfl⟩ := Int.eq_ofNat_of_zero_le (Int.not_lt.mp negative)
    have text : (toString (n : Int)).toList = Nat.toDigits 10 n := Json.toList_natural n
    rcases Json.toDigits_begins n with ⟨c, others, digits, isDigit⟩
    rw [text, integerOfText, Nat.ofDigitChars_ten_toDigits]
    intro others isMinus
    rw [digits, List.cons.injEq] at isMinus
    rw [isMinus.1] at isDigit
    cases isDigit

/-- A text of characters of floating-point numbers, one of which is in no integer. -/
structure LooksFloat (text : List Char) : Prop where
  chars : ∀ c ∈ text, isFloatChar c = true
  mark : ∃ c ∈ text, isIntegerChar c = false

/--
A text looks like a floating-point number if all its characters may be in one and some may not be in
an integer.
-/
theorem LooksFloat.of_check
    {text : List Char} (chars : text.all isFloatChar = true)
    (mark : text.any (!isIntegerChar ·) = true) : LooksFloat text := by
  rcases List.any_eq_true.mp mark with ⟨c, member, notInteger⟩
  exact ⟨List.all_eq_true.mp chars, c, member, (Bool.not_eq_true' _).mp notInteger⟩

theorem LooksFloat.cons
    {text : List Char} (looks : LooksFloat text) {c : Char} (isChar : isFloatChar c = true) :
    LooksFloat (c :: text) := by
  rcases looks with ⟨chars, mark, member, notInteger⟩
  exact ⟨List.forall_mem_cons.mpr ⟨isChar, chars⟩, mark, List.mem_cons_of_mem c member, notInteger⟩

theorem isDigit_of_mem_significantDigits
    {n : Nat} {c : Char} (member : c ∈ Decimal.significantDigits n) : c.isDigit = true := by
  rw [Decimal.significantDigits, List.mem_reverse] at member
  have inDigits := (List.dropWhile_sublist _).subset member
  exact Json.isDigit_of_mem_toDigits (List.mem_reverse.mp inDigits)

section Layout

variable {digits : List Char} (areDigits : ∀ c ∈ digits, c.isDigit = true)

include areDigits

/-- A plain text has a point in it, which no integer has. -/
theorem looksFloat_plainText (before : Int) : LooksFloat (Decimal.plainText digits before) := by
  refine ⟨?_, '.', by simp [Decimal.plainText], by decide⟩
  have padded : ∀ c ∈ List.replicate (1 - before).toNat '0' ++ digits, isFloatChar c = true := by
    intro c member
    rcases List.mem_append.mp member with zero | digit
    · rw [List.eq_of_mem_replicate zero]
      decide
    · exact isFloatChar_of_isDigit (areDigits c digit)
  intro c member
  rw [Decimal.plainText] at member
  rcases List.mem_append.mp member with whole | fraction
  · rcases List.mem_append.mp whole with taken | zero
    · exact padded c (List.mem_of_mem_take taken)
    · rw [List.eq_of_mem_replicate zero]
      decide
  · rcases List.mem_cons.mp fraction with rfl | dropped
    · decide
    · split at dropped
      · rw [List.mem_singleton.mp dropped]
        decide
      · exact padded c (List.mem_of_mem_drop dropped)

/-- A scientific text has the letter of its power of ten, which no integer has. -/
theorem looksFloat_scientificText (plusSign : Bool) (power : Int) :
    LooksFloat (Decimal.scientificText plusSign digits power) := by
  refine ⟨?_, 'e', by simp [Decimal.scientificText], by decide⟩
  intro c member
  rw [Decimal.scientificText] at member
  rcases List.mem_append.mp member with significand | exponent
  · rcases List.mem_append.mp significand with first | others
    · exact isFloatChar_of_isDigit (areDigits c (List.mem_of_mem_take first))
    · split at others
      · cases others
      · rcases List.mem_cons.mp others with rfl | digit
        · decide
        · exact isFloatChar_of_isDigit (areDigits c (List.mem_of_mem_drop digit))
  · rcases List.mem_cons.mp exponent with rfl | sign
    · decide
    · rcases List.mem_append.mp sign with plus | digit
      · split at plus
        · rw [List.mem_singleton.mp plus]
          decide
        · cases plus
      · exact isFloatChar_of_isIntegerChar (isIntegerChar_of_mem digit)

end Layout

theorem looksFloat_absText (layout : Decimal.Layout) (x : Binary64) :
    LooksFloat (layout.absText x) := by
  rw [Decimal.Layout.absText]
  split
  · exact .of_check rfl rfl
  · dsimp only
    split
    · exact looksFloat_plainText (fun c => isDigit_of_mem_significantDigits) _
    · exact looksFloat_scientificText (fun c => isDigit_of_mem_significantDigits) _ _

/-- The text of a floating-point number is never that of an integer, not even for a whole number. -/
theorem looksFloat_text (layout : Decimal.Layout) (x : Binary64) :
    LooksFloat (layout.text x).toList := by
  rw [Decimal.Layout.text]
  split
  · exact .of_check rfl rfl
  · have unsigned :
        LooksFloat (if x.isInfinite then ['i', 'n', 'f'] else layout.absText x) := by
      split
      · exact .of_check rfl rfl
      · exact looksFloat_absText layout x
    rw [String.toList_ofList]
    split
    · exact unsigned.cons (by decide)
    · exact unsigned

/-! ## The kind of a literal -/

/-- No number has a quote or a semicolon in it. -/
theorem ne_of_isFloatChar {c : Char} (isChar : isFloatChar c = true) : c ≠ '\x27' ∧ c ≠ ';' := by
  constructor
  · rintro rfl
    exact absurd isChar (by decide)
  · rintro rfl
    exact absurd isChar (by decide)

/-- Only strings have quotes or semicolons in their literals. -/
theorem ne_of_mem_literal
    {default : Literal} (notString : default.kind ≠ .string) {c : Char}
    (member : c ∈ (literal default).toList) : c ≠ '\x27' ∧ c ≠ ';' := by
  cases default with
  | bool b =>
      have noSign : (toString b).toList.all (fun d => d ≠ '\x27' ∧ d ≠ ';') = true := by
        cases b <;> rfl
      exact of_decide_eq_true (List.all_eq_true.mp noSign c member)
  | integer i =>
      exact ne_of_isFloatChar (isFloatChar_of_isIntegerChar (isIntegerChar_of_mem member))
  | float x => exact ne_of_isFloatChar ((looksFloat_text floatLayout x).chars c member)
  | string s => exact absurd rfl notString

/-- The text of a literal shows its kind. -/
theorem kindOfText_literal (default : Literal) :
    kindOfText (literal default).toList = default.kind := by
  have noQuote (notString : default.kind ≠ .string) :
      (literal default).toList.head? ≠ some '\x27' := fun isFirst =>
    (ne_of_mem_literal notString (List.mem_of_mem_head? isFirst)).1 rfl
  cases default with
  | bool b => cases b <;> decide
  | integer i =>
      have chars : (toString i.toInt).toList.all isIntegerChar = true :=
        List.all_eq_true.mpr fun c => isIntegerChar_of_mem
      have notString : (Literal.integer i).kind ≠ .string := by
        rintro ⟨⟩
      rw [kindOfText, if_neg (noQuote notString), literal, if_pos chars, Literal.kind]
  | float x =>
      rcases looksFloat_text floatLayout x with ⟨chars, mark, member, notInteger⟩
      have notIntegers : (floatLayout.text x).toList.all isIntegerChar ≠ true := fun integers => by
        rw [List.all_eq_true.mp integers mark member] at notInteger
        cases notInteger
      have notString : (Literal.float x).kind ≠ .string := by
        rintro ⟨⟩
      rw [kindOfText, if_neg (noQuote notString), literal, if_neg notIntegers,
        if_pos (List.all_eq_true.mpr chars), Literal.kind]
  | string s =>
      have isQuote : (literal (.string s)).toList.head? = some '\x27' := by
        simp [literal, stringLiteral]
      rw [kindOfText, if_pos isQuote, Literal.kind]

/-- Strings with one literal are equal, since the literal can be read back. -/
theorem stringLiteral_injective : Function.Injective stringLiteral := by
  intro first second sameText
  have read := reads_stringLiteral first []
  rw [sameText, reads_stringLiteral second []] at read
  exact (Prod.mk.inj (Option.some.inj read)).1.symm

/-- Default values with one text are the same. -/
theorem sameShown_of_literal_eq
    {first second : Literal} (sameText : literal first = literal second) :
    first.SameShown second := by
  have sameKind : first.kind = second.kind := by
    rw [← kindOfText_literal, sameText, kindOfText_literal]
  cases first with
  | bool b =>
      cases second with
      | bool other =>
          obtain rfl : b = other := by revert sameText; cases b <;> cases other <;> decide
          exact .bool b
      | _ => cases sameKind
  | integer i =>
      cases second with
      | integer other =>
          have sameValue := congrArg (integerOfText ∘ String.toList) sameText
          simp only [Function.comp_apply, literal, integerOfText_toString] at sameValue
          obtain rfl := Int64.toInt_inj.mp sameValue
          exact .integer i
      | _ => cases sameKind
  | float x =>
      cases second with
      | float other => exact .float sameText
      | _ => cases sameKind
  | string s =>
      cases second with
      | string other =>
          obtain rfl := stringLiteral_injective sameText
          exact .string s
      | _ => cases sameKind

/--
Default values have one literal exactly if they are the same, where floating-point numbers go by
their texts.
-/
theorem literal_eq_iff {first second : Literal} :
    literal first = literal second ↔ first.SameShown second := by
  refine ⟨sameShown_of_literal_eq, fun sameShown => ?_⟩
  cases sameShown with
  | bool b => rfl
  | integer i => rfl
  | float sameText => exact sameText
  | string s => rfl

theorem map_literal_eq_iff {first second : Option Literal} :
    first.map literal = second.map literal ↔ Option.Rel Literal.SameShown first second := by
  constructor
  · intro sameText
    cases first with
    | none =>
        cases second with
        | none => exact .none
        | some other => cases sameText
    | some value =>
        cases second with
        | none => cases sameText
        | some other => exact .some (literal_eq_iff.mp (Option.some.inj sameText))
  · intro sameShown
    cases sameShown with
    | none => rfl
    | some each => exact congrArg some (literal_eq_iff.mpr each)

/-! ## Reading a literal -/

/-- Reads a literal and the semicolon behind it. -/
def readLiteral : Reader String :=
  (do
    let text ← readString
    expect ";"
    pure (stringLiteral text)) <|>
  (do
    let read ← untilStop (· = ';')
    pure read.1)

/-- A literal is read up to the semicolon behind it. -/
theorem reads_literal (default : Literal) :
    Reads readLiteral ((literal default).toList ++ [';']) (literal default) := by
  by_cases isString : default.kind = .string
  · cases default with
    | string s => exact .orElse_left (.bind (reads_stringLiteral s) (.bind_pure (.expect ";") _))
    | _ => cases isString
  · apply Reads.orElse_right
    · intro rest
      rw [StateT.run_bind, readString_run_of_not_quote]
      · rfl
      · rintro ⟨others, isQuote⟩
        cases text : (literal default).toList with
        | nil => simp [text] at isQuote
        | cons c rest =>
            rw [text] at isQuote
            obtain rfl : '\x27' = c := (List.cons.inj isQuote).1
            exact (ne_of_mem_literal isString (text ▸ List.mem_cons_self)).1 rfl
    · have goesOn : ∀ c ∈ (literal default).toList, decide (c = ';') = false := fun c member =>
        decide_eq_false (ne_of_mem_literal isString member).2
      exact .bind_pure (.untilStop goesOn (by decide)) _

end Php

end ApiShapes
