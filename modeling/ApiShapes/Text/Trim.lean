/-!
# Dropping a character at the ends of a text
-/

namespace ApiShapes.Text

/-- The text without the occurrences of `c` that it starts with. -/
def trimStart (c : Char) (text : String) : String :=
  String.ofList (text.toList.dropWhile (· = c))

/-- The text without the occurrences of `c` that it starts or ends with. -/
def trimEnds (c : Char) (text : String) : String :=
  String.ofList
    (((text.toList.dropWhile (· = c)).reverse.dropWhile (· = c)).reverse)

end ApiShapes.Text
