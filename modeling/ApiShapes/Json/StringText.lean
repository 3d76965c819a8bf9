import ApiShapes.Json.Fault

/-!
# Reading a JSON string

A string stands between double quotes.  A backslash introduces an escape: one of eight characters,
or four hexadecimal digits after `u`.  Characters beyond the first sixteen bits are escaped as a
pair of surrogates, and a surrogate never stands alone.
-/

namespace ApiShapes.Json

/-- The value of a hexadecimal digit in either case. -/
def hexDigit? (c : Char) : Option Nat :=
  if '0' ≤ c ∧ c ≤ '9' then some (c.toNat - 48)
  else if 'a' ≤ c ∧ c ≤ 'f' then some (c.toNat - 87)
  else if 'A' ≤ c ∧ c ≤ 'F' then some (c.toNat - 55)
  else none

/-- The value of four hexadecimal digits at the front of a text, and the rest. -/
def fourHexDigits? : List Char → Option (Nat × List Char)
  | a :: b :: c :: d :: rest => do
      let a ← hexDigit? a
      let b ← hexDigit? b
      let c ← hexDigit? c
      let d ← hexDigit? d
      pure (((a * 16 + b) * 16 + c) * 16 + d, rest)
  | _ => none

/-- Reads four hexadecimal digits; other text of at least four bytes is found wrong behind them. -/
def readFourHexDigits (text : List Char) : Except Fault (Nat × List Char) :=
  match fourHexDigits? text with
  | some result => .ok result
  | none =>
      if byteSize text < 4 then .error (.before .endInString [])
      else .error ⟨.invalidEscape, byteSize text - 4⟩

/-- Whether a number of sixteen bits is the first half of a surrogate pair. -/
def isHighSurrogate (n : Nat) : Bool :=
  decide (0xD800 ≤ n) && decide (n < 0xDC00)

/-- Whether a number of sixteen bits is the second half of a surrogate pair. -/
def isLowSurrogate (n : Nat) : Bool :=
  decide (0xDC00 ≤ n) && decide (n < 0xE000)

/-- The character of a surrogate pair. -/
def surrogatePair (high low : Nat) : Char :=
  .ofNat ((high - 0xD800) * 0x400 + (low - 0xDC00) + 0x10000)

/-- Reads the second half of a surrogate pair, an escape of its own. -/
def readLowSurrogate (high : Nat) (text : List Char) : Except Fault (Char × List Char) :=
  match text with
  | [] => .error (.before .endInString [])
  | '\\' :: [] => .error (.before .endInString [])
  | '\\' :: 'u' :: rest => do
      let (low, rest) ← readFourHexDigits rest
      if isLowSurrogate low then pure (surrogatePair high low, rest)
      else throw (.before .loneSurrogate rest)
  | '\\' :: rest => .error (.inFirst .unfinishedSurrogatePair rest)
  | _ => .error (.inFirst .unfinishedSurrogatePair text)

/-- Reads the escape of a code point behind its `u`. -/
def readCodePoint (text : List Char) : Except Fault (Char × List Char) := do
  let (n, rest) ← readFourHexDigits text
  if isLowSurrogate n then throw (.before .loneSurrogate rest)
  else if isHighSurrogate n then readLowSurrogate n rest
  else pure (.ofNat n, rest)

/-- Reads an escape behind its backslash. -/
def readEscape (text : List Char) : Except Fault (Char × List Char) :=
  match text with
  | [] => .error (.before .endInString [])
  | '"' :: rest => .ok ('"', rest)
  | '\\' :: rest => .ok ('\\', rest)
  | '/' :: rest => .ok ('/', rest)
  | 'b' :: rest => .ok ('\x08', rest)
  | 'f' :: rest => .ok ('\x0c', rest)
  | 'n' :: rest => .ok ('\n', rest)
  | 'r' :: rest => .ok ('\r', rest)
  | 't' :: rest => .ok ('\t', rest)
  | 'u' :: rest => readCodePoint rest
  | _ => .error (.inFirst .invalidEscape text)

/-! ## What is left of the text -/

/-- Four digits are taken from the front of the text. -/
theorem readFourHexDigits_length {text rest : List Char} {n : Nat}
    (h : readFourHexDigits text = .ok (n, rest)) : rest.length < text.length := by
  unfold readFourHexDigits at h
  split at h
  · rename_i result found
    unfold fourHexDigits? at found
    split at found
    · simp only [Option.bind_eq_bind, Option.bind_eq_some_iff] at found
      obtain ⟨a, -, b, -, c, -, d, -, found⟩ := found
      simp_all [pure]
      omega
    · simp at found
  · split at h <;> simp at h

/-- The second half of a pair is taken from the front of the text. -/
theorem readLowSurrogate_length {high : Nat} {text rest : List Char} {c : Char}
    (h : readLowSurrogate high text = .ok (c, rest)) : rest.length < text.length := by
  unfold readLowSurrogate at h
  split at h
  · simp at h
  · simp at h
  · rename_i behind
    cases digits : readFourHexDigits behind with
    | error fault => simp [digits, bind, Except.bind] at h
    | ok result =>
        obtain ⟨low, left⟩ := result
        have shorter := readFourHexDigits_length digits
        simp only [digits, bind, Except.bind] at h
        split at h
        · simp only [pure, Except.pure, Except.ok.injEq, Prod.mk.injEq] at h
          rw [← h.2]
          simp only [List.length_cons]
          omega
        · simp [throw, throwThe, MonadExceptOf.throw] at h
  · simp at h
  · simp at h

theorem readCodePoint_length {text rest : List Char} {c : Char}
    (h : readCodePoint text = .ok (c, rest)) : rest.length < text.length := by
  unfold readCodePoint at h
  cases digits : readFourHexDigits text with
  | error fault => simp [digits, bind, Except.bind] at h
  | ok result =>
      obtain ⟨low, left⟩ := result
      have shorter := readFourHexDigits_length digits
      simp only [digits, bind, Except.bind] at h
      split at h
      · simp [throw, throwThe, MonadExceptOf.throw] at h
      · split at h
        · exact Nat.lt_trans (readLowSurrogate_length h) shorter
        · simp only [pure, Except.pure, Except.ok.injEq, Prod.mk.injEq] at h
          rw [← h.2]
          exact shorter

/-- An escape takes at least one character, so reading a string ends. -/
theorem readEscape_length {text rest : List Char} {c : Char}
    (h : readEscape text = .ok (c, rest)) : rest.length < text.length := by
  unfold readEscape at h
  split at h
  case h_10 => exact Nat.lt_succ_of_lt (readCodePoint_length h)
  all_goals simp_all

/-! ## The string -/

/-- Reads a string behind its opening quote. -/
def readString : List Char → Except Fault (List Char × List Char)
  | [] => .error (.before .endInString [])
  | c :: rest =>
      if c = '"' then
        .ok ([], rest)
      else if c = '\\' then
        match _h : readEscape rest with
        | .error fault => .error fault
        | .ok (escaped, behind) => (readString behind).map fun (s, left) => (escaped :: s, left)
      else if c.toNat < 0x20 then
        .error (.inFirst .controlCharacter (c :: rest))
      else
        (readString rest).map fun (s, left) => (c :: s, left)
termination_by text => text.length
decreasing_by
  · have := readEscape_length _h; simp only [List.length_cons]; omega
  · simp

/-- A string that was read leaves less than the text behind its opening quote. -/
theorem readString_length {text s rest : List Char}
    (h : readString text = .ok (s, rest)) : rest.length < text.length := by
  fun_induction readString text generalizing s with
  | case1 => simp at h
  | case2 => simp_all
  | case3 => simp at h
  | case4 behind escaped left escape _ ih =>
      cases inner : readString left with
      | error fault => simp [inner, Except.map] at h
      | ok result =>
          simp only [inner, Except.map, Except.ok.injEq, Prod.mk.injEq] at h
          have := ih (s := result.1) (by rw [inner, ← h.2])
          have := readEscape_length escape
          simp only [List.length_cons]
          omega
  | case5 => simp at h
  | case6 c behind _ _ _ ih =>
      cases inner : readString behind with
      | error fault => simp [inner, Except.map] at h
      | ok result =>
          simp only [inner, Except.map, Except.ok.injEq, Prod.mk.injEq] at h
          have := ih (s := result.1) (by rw [inner, ← h.2])
          simp only [List.length_cons]
          omega

end ApiShapes.Json
