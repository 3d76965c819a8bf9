import ApiShapes.Unicode.Alphanumeric
import ApiShapes.Unicode.LetterCase
import ApiShapes.Unicode.CaseMapping
import ApiShapes.Text.Split

/-!
# Words and camel case

A text is read as a sequence of words and written again without the characters between them.
Characters that are neither letters nor numbers separate pieces of the text, and inside a piece a
change of letter case starts a new word: `parseHTTPHeader` is read as `parse`, `HTTP`, `Header`.
Characters without case, such as digits, belong to the word they stand in and leave the letter case
before them in force.
-/

namespace ApiShapes.Text

open ApiShapes.Unicode

/-- The letter case in force at a place of a word; a word starts without one. -/
inductive CaseMode where
  | none
  | lower
  | upper
  deriving Repr, DecidableEq

/-- The letter case in force after a character. -/
def CaseMode.after (mode : CaseMode) (c : Char) : CaseMode :=
  if isLowercase c then .lower
  else if isUppercase c then .upper
  else mode

/--
The words of a piece.  A word ends after a character when lowercase is in force there and an
uppercase character follows; and it ends before an uppercase character when uppercase was in force
and a lowercase character follows, so that the last capital of `HTTPHeader` opens `Header`.
-/
def wordsOfPiece (mode : CaseMode) : List Char → List (List Char)
  | [] => []
  | [c] => [[c]]
  | c :: next :: rest =>
      if mode.after c = .lower ∧ isUppercase next then
        [c] :: wordsOfPiece .none (next :: rest)
      else if mode = .upper ∧ isUppercase c ∧ isLowercase next then
        [] :: consFirst c (wordsOfPiece .none (next :: rest))
      else
        consFirst c (wordsOfPiece (mode.after c) (next :: rest))

/-- The words of a text in order. -/
def words (text : List Char) : List (List Char) :=
  (splitAtEach (!isAlphanumeric ·) text).flatMap (wordsOfPiece .none)

/-- A word in lowercase; a sigma that ends it takes its final form. -/
def lowercaseWord : List Char → List Char
  | [] => []
  | [c] => if c = 'Σ' then ['ς'] else toLowercase c
  | c :: rest => toLowercase c ++ lowercaseWord rest

/-- A word with its first character in uppercase and the others in lowercase. -/
def capitalizeWord : List Char → List Char
  | [] => []
  | c :: rest => toUppercase c ++ lowercaseWord rest

/-- All words capitalized and joined: `user-profile` becomes `UserProfile`. -/
def upperCamel (text : String) : String :=
  String.ofList ((words text.toList).flatMap capitalizeWord)

/-- The first word in lowercase, the others capitalized: `user-profile` becomes `userProfile`. -/
def lowerCamel (text : String) : String :=
  match words text.toList with
  | [] => ""
  | first :: others =>
      String.ofList (lowercaseWord first ++ others.flatMap capitalizeWord)

end ApiShapes.Text
