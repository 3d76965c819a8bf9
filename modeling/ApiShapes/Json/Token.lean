import ApiShapes.Json.NumberText
import ApiShapes.Json.StringText

/-!
# The tokens of a JSON text

A text is cut into brackets, commas, colons and scalars; blanks between them are dropped.  A token
remembers the text that it starts, so that a fault can be placed there.  The first lexeme that is
none, a broken scalar or a foreign character, ends the sequence: nothing behind it is looked at.
-/

namespace ApiShapes.Json

/-- What a token is. -/
inductive Lexeme where
  | openList
  | closeList
  | openObject
  | closeObject
  | comma
  | colon
  | scalar (value : Value)
  | string (s : String)
  | brokenScalar (fault : Fault)
  | brokenString (fault : Fault)
  | foreign
  deriving Repr

/-- A lexeme and the text from its first character on. -/
structure Token where
  lexeme : Lexeme
  text : List Char
  deriving Repr

/-- Whether a character is a blank between tokens. -/
def isBlank (c : Char) : Bool :=
  c == ' ' || c == '\n' || c == '\t' || c == '\r'

/-- Reads the rest of a word such as `null`. -/
def readWord : List Char → List Char → Except Fault (List Char)
  | [], text => .ok text
  | _ :: _, [] => .error (.before .endInValue [])
  | w :: word, c :: rest =>
      if c = w then readWord word rest else .error (.inFirst .expectedIdentifier (c :: rest))

/-- The lexeme of a word whose first character is read, and the text behind it. -/
def wordLexeme (word : List Char) (value : Value) (rest : List Char) : Lexeme × List Char :=
  match readWord word rest with
  | .ok behind => (.scalar value, behind)
  | .error fault => (.brokenScalar fault, [])

/-- The lexeme of a string whose opening quote is read, and the text behind it. -/
def stringLexeme (rest : List Char) : Lexeme × List Char :=
  match readString rest with
  | .ok (s, behind) => (.string (.ofList s), behind)
  | .error fault => (.brokenString fault, [])

/-- The lexeme of a number that `text` starts with, and the text behind it. -/
def numberLexeme (text : List Char) : Lexeme × List Char :=
  match readNumber text with
  | .ok (n, behind) => (.scalar (.number n), behind)
  | .error fault => (.brokenScalar fault, [])

/-- The lexeme that starts with `c`, followed by `rest`, and the text behind it. -/
def readLexeme (c : Char) (rest : List Char) : Lexeme × List Char :=
  match c with
  | '[' => (.openList, rest)
  | ']' => (.closeList, rest)
  | '\x7b' => (.openObject, rest)
  | '\x7d' => (.closeObject, rest)
  | ',' => (.comma, rest)
  | ':' => (.colon, rest)
  | '"' => stringLexeme rest
  | 'n' => wordLexeme ['u', 'l', 'l'] .null rest
  | 't' => wordLexeme ['r', 'u', 'e'] (.bool true) rest
  | 'f' => wordLexeme ['a', 'l', 's', 'e'] (.bool false) rest
  | _ => if c = '-' ∨ c.isDigit then numberLexeme (c :: rest) else (.foreign, [])

/-- A word is taken from the front of the text. -/
theorem readWord_length {word text rest : List Char} (h : readWord word text = .ok rest) :
    rest.length ≤ text.length := by
  fun_induction readWord word text with
  | case1 => simp_all
  | case2 => simp at h
  | case3 w word behind ih => exact Nat.le_succ_of_le (ih h)
  | case4 => simp at h

theorem wordLexeme_length (word : List Char) (value : Value) (rest : List Char) :
    (wordLexeme word value rest).2.length ≤ rest.length := by
  unfold wordLexeme
  split
  · rename_i read
    exact readWord_length read
  · exact Nat.zero_le _

/-- A string, also one that is broken off, does not make the text longer. -/
theorem stringLexeme_length (rest : List Char) :
    (stringLexeme rest).2.length ≤ rest.length := by
  unfold stringLexeme
  split
  · rename_i read
    exact Nat.le_of_lt (readString_length read)
  · exact Nat.zero_le _

/-- A number takes at least the character that it begins with. -/
theorem numberLexeme_length (c : Char) (rest : List Char) :
    (numberLexeme (c :: rest)).2.length ≤ rest.length := by
  unfold numberLexeme
  split
  · rename_i read
    exact Nat.le_of_lt_succ (readNumber_length read)
  · exact Nat.zero_le _

/-- A lexeme takes at least its first character. -/
theorem readLexeme_length (c : Char) (rest : List Char) :
    (readLexeme c rest).2.length ≤ rest.length := by
  unfold readLexeme
  split
  case h_7 => exact stringLexeme_length rest
  case h_8 => exact wordLexeme_length _ _ rest
  case h_9 => exact wordLexeme_length _ _ rest
  case h_10 => exact wordLexeme_length _ _ rest
  case h_11 =>
    split
    · exact numberLexeme_length c rest
    · exact Nat.zero_le _
  all_goals exact Nat.le_refl _

/-- The tokens of a text. -/
def tokens : List Char → List Token
  | [] => []
  | c :: rest =>
      if isBlank c then
        tokens rest
      else
        ⟨(readLexeme c rest).1, c :: rest⟩ :: tokens (readLexeme c rest).2
termination_by text => text.length
decreasing_by
  · simp
  · exact Nat.lt_succ_of_le (readLexeme_length c rest)

end ApiShapes.Json
