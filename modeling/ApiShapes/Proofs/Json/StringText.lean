import ApiShapes.Json.StringText

/-!
# Texts of strings

A string has many texts: a character stands for itself, or it is written by an escape.  `StandsFor`
says of a piece of text which character it writes; quotes around the pieces of all its characters
make a text of a string.  Main statement: whichever pieces are chosen, the string is read back, and
what stands behind the closing quote is left.
-/

namespace ApiShapes.Json

/-- The characters with an escape of one letter, each with its letter. -/
def shortEscapes : List (Char × Char) :=
  [('"', '"'), ('\\', '\\'), ('/', '/'), ('\x08', 'b'), ('\x0c', 'f'), ('\n', 'n'), ('\r', 'r'),
    ('\t', 't')]

/-- A hexadecimal digit, in either case, for a value below sixteen. -/
def IsHexDigit (value : Nat) (digit : Char) : Prop :=
  "0123456789abcdef".toList[value]? = some digit ∨ "0123456789ABCDEF".toList[value]? = some digit

/-- Four hexadecimal digits for a number of sixteen bits. -/
inductive FourHexDigits (n : Nat) : List Char → Prop
  | digits {a b c d : Char} (first : IsHexDigit (n / 4096) a) (second : IsHexDigit (n / 256 % 16) b)
      (third : IsHexDigit (n / 16 % 16) c) (fourth : IsHexDigit (n % 16) d) :
      FourHexDigits n [a, b, c, d]

/-- A piece of text stands for a character inside a string. -/
inductive StandsFor : Char → List Char → Prop
  | plain {c : Char} (notQuote : c ≠ '"') (notBackslash : c ≠ '\\') (notControl : 0x20 ≤ c.toNat) :
      StandsFor c [c]
  | short {c letter : Char} (member : (c, letter) ∈ shortEscapes) : StandsFor c ['\\', letter]
  | code {c : Char} {digits : List Char} (isShort : c.toNat < 0x10000)
      (written : FourHexDigits c.toNat digits) : StandsFor c ('\\' :: 'u' :: digits)
  | pair {c : Char} {high low : List Char} (isLong : 0x10000 ≤ c.toNat)
      (highWritten : FourHexDigits (0xD800 + (c.toNat - 0x10000) / 0x400) high)
      (lowWritten : FourHexDigits (0xDC00 + (c.toNat - 0x10000) % 0x400) low) :
      StandsFor c ('\\' :: 'u' :: high ++ '\\' :: 'u' :: low)

/-- Pieces of text stand for characters, one after the other. -/
inductive AllStandFor : List Char → List Char → Prop
  | nil : AllStandFor [] []
  | cons {c : Char} {s piece text : List Char} (first : StandsFor c piece)
      (others : AllStandFor s text) : AllStandFor (c :: s) (piece ++ text)

theorem hexDigit?_eq {value : Nat} {digit : Char} (isDigit : IsHexDigit value digit) :
    hexDigit? digit = some value := by
  have table : ∀ value < 16,
      "0123456789abcdef".toList[value]?.bind hexDigit? = some value ∧
        "0123456789ABCDEF".toList[value]?.bind hexDigit? = some value := by decide
  have bound : value < 16 := by
    rcases isDigit with found | found <;> exact (List.getElem?_eq_some_iff.mp found).1
  have read := table value bound
  rcases isDigit with found | found
  · rw [found, Option.bind_some] at read
    exact read.1
  · rw [found, Option.bind_some] at read
    exact read.2

/-- Four hexadecimal digits are read as the number that they write. -/
theorem readFourHexDigits_eq
    {n : Nat} {digits : List Char} (written : FourHexDigits n digits) (rest : List Char) :
    readFourHexDigits (digits ++ rest) = .ok (n, rest) := by
  cases written with
  | digits first second third fourth =>
      have sum : ((n / 4096 * 16 + n / 256 % 16) * 16 + n / 16 % 16) * 16 + n % 16 = n := by omega
      simp only [readFourHexDigits, List.cons_append, List.nil_append, fourHexDigits?,
        hexDigit?_eq first, hexDigit?_eq second, hexDigit?_eq third, hexDigit?_eq fourth,
        Option.bind_eq_bind, Option.bind_some, sum]
      rfl

/-- A short escape is read as its character. -/
theorem readEscape_short
    {c letter : Char} (member : (c, letter) ∈ shortEscapes) (rest : List Char) :
    readEscape (letter :: rest) = .ok (c, rest) := by
  simp only [shortEscapes, List.mem_cons, Prod.mk.injEq, List.not_mem_nil, or_false] at member
  rcases member with ⟨rfl, rfl⟩ | ⟨rfl, rfl⟩ | ⟨rfl, rfl⟩ | ⟨rfl, rfl⟩ | ⟨rfl, rfl⟩ | ⟨rfl, rfl⟩ |
    ⟨rfl, rfl⟩ | ⟨rfl, rfl⟩ <;> rfl

/-- No character is one half of a surrogate pair. -/
theorem not_surrogate (c : Char) :
    isLowSurrogate c.toNat = false ∧ isHighSurrogate c.toNat = false := by
  have valid : c.toNat < 0xD800 ∨ 0xDFFF < c.toNat ∧ c.toNat < 0x110000 := c.valid
  simp only [isLowSurrogate, isHighSurrogate, Bool.and_eq_false_iff, decide_eq_false_iff_not]
  omega

/-- The code of a character outside the surrogates is read as the character. -/
theorem readEscape_code
    {c : Char} {digits : List Char} (written : FourHexDigits c.toNat digits) (rest : List Char) :
    readEscape ('u' :: (digits ++ rest)) = .ok (c, rest) := by
  have isCode : readEscape ('u' :: (digits ++ rest)) = readCodePoint (digits ++ rest) := rfl
  rw [isCode, readCodePoint, readFourHexDigits_eq written]
  simp [bind, Except.bind, not_surrogate c, pure, Except.pure, Char.ofNat_toNat]

/-- The two halves of the surrogate pair of a character, and the character of the pair. -/
theorem surrogatePair_eq {c : Char} (isLong : 0x10000 ≤ c.toNat) :
    isHighSurrogate (0xD800 + (c.toNat - 0x10000) / 0x400) = true ∧
      isLowSurrogate (0xD800 + (c.toNat - 0x10000) / 0x400) = false ∧
      isLowSurrogate (0xDC00 + (c.toNat - 0x10000) % 0x400) = true ∧
      surrogatePair (0xD800 + (c.toNat - 0x10000) / 0x400)
        (0xDC00 + (c.toNat - 0x10000) % 0x400) = c := by
  have valid : c.toNat < 0xD800 ∨ 0xDFFF < c.toNat ∧ c.toNat < 0x110000 := c.valid
  refine ⟨?_, ?_, ?_, ?_⟩
  · simp only [isHighSurrogate, Bool.and_eq_true, decide_eq_true_eq]
    omega
  · simp only [isLowSurrogate, Bool.and_eq_false_iff, decide_eq_false_iff_not]
    omega
  · simp only [isLowSurrogate, Bool.and_eq_true, decide_eq_true_eq]
    omega
  · have sum : (0xD800 + (c.toNat - 0x10000) / 0x400 - 0xD800) * 0x400 +
        (0xDC00 + (c.toNat - 0x10000) % 0x400 - 0xDC00) + 0x10000 = c.toNat := by omega
    rw [surrogatePair, sum, Char.ofNat_toNat]

/-- The codes of two surrogates are read as the one character that they make up. -/
theorem readEscape_pair
    {high low : Nat} {first second : List Char} (isHigh : isHighSurrogate high = true)
    (notLow : isLowSurrogate high = false) (isLow : isLowSurrogate low = true)
    (firstWritten : FourHexDigits high first) (secondWritten : FourHexDigits low second)
    (rest : List Char) :
    readEscape ('u' :: (first ++ '\\' :: 'u' :: (second ++ rest))) =
      .ok (surrogatePair high low, rest) := by
  have isCode : readEscape ('u' :: (first ++ '\\' :: 'u' :: (second ++ rest))) =
      readCodePoint (first ++ '\\' :: 'u' :: (second ++ rest)) := rfl
  rw [isCode, readCodePoint, readFourHexDigits_eq firstWritten]
  simp only [bind, Except.bind, isHigh, notLow, if_true, if_false, Bool.false_eq_true]
  rw [readLowSurrogate, readFourHexDigits_eq secondWritten]
  simp only [bind, Except.bind, isLow, if_true]
  rfl

/-- A character that needs no escape stands for itself. -/
theorem readString_plain
    {c : Char} (notQuote : c ≠ '"') (notBackslash : c ≠ '\\') (notControl : 0x20 ≤ c.toNat)
    (text : List Char) :
    readString (c :: text) = (readString text).map fun (s, left) => (c :: s, left) := by
  rw [readString, if_neg notQuote, if_neg notBackslash, if_neg (Nat.not_lt.mpr notControl)]

/-- An escape stands for its character, and the string goes on behind it. -/
theorem readString_escape
    {c : Char} {escape rest : List Char} (isEscape : readEscape escape = .ok (c, rest)) :
    readString ('\\' :: escape) = (readString rest).map fun (s, left) => (c :: s, left) := by
  rw [readString, if_neg (by decide), if_pos rfl]
  split
  · rename_i failed
    rw [isEscape] at failed
    cases failed
  · rename_i found
    rw [isEscape] at found
    cases found
    rfl

/-- A character is read from any piece that stands for it. -/
theorem readString_piece
    {c : Char} {piece : List Char} (stands : StandsFor c piece) (text : List Char) :
    readString (piece ++ text) = (readString text).map fun (s, left) => (c :: s, left) := by
  cases stands with
  | plain notQuote notBackslash notControl =>
      exact readString_plain notQuote notBackslash notControl text
  | short member => exact readString_escape (readEscape_short member text)
  | code isShort written => exact readString_escape (readEscape_code written text)
  | pair isLong highWritten lowWritten =>
      rcases surrogatePair_eq isLong with ⟨isHigh, notLow, isLow, isPair⟩
      have isEscape := readEscape_pair isHigh notLow isLow highWritten lowWritten text
      rw [isPair] at isEscape
      rw [List.append_assoc]
      exact readString_escape isEscape

/-- Reading a string behind its opening quote gives the characters that its pieces stand for. -/
theorem readString_text
    {s text : List Char} (stand : AllStandFor s text) (rest : List Char) :
    readString (text ++ '"' :: rest) = .ok (s, rest) := by
  induction stand with
  | nil => rw [List.nil_append, readString, if_pos rfl]
  | cons first others ih =>
      rw [List.append_assoc, readString_piece first, ih]
      rfl

/-! ## Every string has a text -/

theorem AllStandFor.plain
    {s : List Char} (arePlain : ∀ c ∈ s, c ≠ '"' ∧ c ≠ '\\' ∧ 0x20 ≤ c.toNat) : AllStandFor s s := by
  induction s with
  | nil => exact .nil
  | cons c s ih =>
      rcases arePlain c List.mem_cons_self with ⟨notQuote, notBackslash, notControl⟩
      have others := ih fun d member => arePlain d (List.mem_cons_of_mem c member)
      exact .cons (.plain notQuote notBackslash notControl) others

/-- Every number below 65536 is written with four hexadecimal digits. -/
theorem exists_fourHexDigits {n : Nat} (isShort : n < 0x10000) :
    ∃ digits, FourHexDigits n digits := by
  have exists_digit {value : Nat} (bound : value < 16) : ∃ digit, IsHexDigit value digit := by
    have inTable : value < "0123456789abcdef".toList.length := bound
    exact ⟨_, .inl (List.getElem?_eq_getElem inTable)⟩
  rcases exists_digit (show n / 4096 < 16 by omega) with ⟨a, first⟩
  rcases exists_digit (show n / 256 % 16 < 16 by omega) with ⟨b, second⟩
  rcases exists_digit (show n / 16 % 16 < 16 by omega) with ⟨c, third⟩
  rcases exists_digit (show n % 16 < 16 by omega) with ⟨d, fourth⟩
  exact ⟨_, .digits first second third fourth⟩

/-- Every character can be written in a string: as itself or with an escape. -/
theorem exists_standsFor (c : Char) : ∃ piece, StandsFor c piece := by
  by_cases notControl : 0x20 ≤ c.toNat
  · by_cases isQuote : c = '"'
    · exact ⟨['\\', '"'], .short (by simp [shortEscapes, isQuote])⟩
    · by_cases isBackslash : c = '\\'
      · exact ⟨['\\', '\\'], .short (by simp [shortEscapes, isBackslash])⟩
      · exact ⟨_, .plain isQuote isBackslash notControl⟩
  · have isShort : c.toNat < 0x10000 := by omega
    rcases exists_fourHexDigits isShort with ⟨digits, written⟩
    exact ⟨_, .code isShort written⟩

theorem exists_allStandFor (s : List Char) : ∃ text, AllStandFor s text := by
  induction s with
  | nil => exact ⟨[], .nil⟩
  | cons c s ih =>
      rcases exists_standsFor c with ⟨piece, stands⟩
      rcases ih with ⟨text, others⟩
      exact ⟨piece ++ text, .cons stands others⟩

end ApiShapes.Json
