/-!
# Cutting a text at separators
-/

namespace ApiShapes.Text

/-- Puts a character in front of the first part. -/
def consFirst (c : Char) : List (List Char) → List (List Char)
  | [] => [[c]]
  | part :: parts => (c :: part) :: parts

/-- The parts of a text between its separators; there is one part more than separators. -/
def splitAtEach (isSeparator : Char → Bool) : List Char → List (List Char)
  | [] => [[]]
  | c :: rest =>
      if isSeparator c then [] :: splitAtEach isSeparator rest
      else consFirst c (splitAtEach isSeparator rest)

end ApiShapes.Text
