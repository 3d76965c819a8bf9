/-!
# Why a text is not JSON

A `Fault` names what is wrong and says how many bytes of the text were not read yet when it was
found.  The place that is reported to a reader, a `JsonError`, has a line and a column instead; the
column counts the bytes since the last line break.
-/

namespace ApiShapes

namespace Json

/-- What is wrong with a text that is not JSON. -/
inductive Problem where
  | endInValue
  | endInString
  | endInList
  | endInObject
  | expectedValue
  | expectedIdentifier
  | expectedColon
  | expectedListCommaOrEnd
  | expectedObjectCommaOrEnd
  | keyNotString
  | trailingComma
  | trailingCharacters
  | recursionLimit
  | controlCharacter
  | invalidEscape
  | loneSurrogate
  | unfinishedSurrogatePair
  | invalidNumber
  | numberOutOfRange
  deriving Repr, DecidableEq

/-- The wording of a problem. -/
def Problem.message : Problem → String
  | endInValue => "EOF while parsing a value"
  | endInString => "EOF while parsing a string"
  | endInList => "EOF while parsing a list"
  | endInObject => "EOF while parsing an object"
  | expectedValue => "expected value"
  | expectedIdentifier => "expected ident"
  | expectedColon => "expected `:`"
  | expectedListCommaOrEnd => "expected `,` or `]`"
  | expectedObjectCommaOrEnd => "expected `,` or `\x7d`"
  | keyNotString => "key must be a string"
  | trailingComma => "trailing comma"
  | trailingCharacters => "trailing characters"
  | recursionLimit => "recursion limit exceeded"
  | controlCharacter =>
      "control character (\\u0000-\\u001F) found while parsing a string"
  | invalidEscape => "invalid escape"
  | loneSurrogate => "lone leading surrogate in hex escape"
  | unfinishedSurrogatePair => "unexpected end of hex escape"
  | invalidNumber => "invalid number"
  | numberOutOfRange => "number out of range"

/-- A problem, and the count of bytes left unread when it was found. -/
structure Fault where
  problem : Problem
  unread : Nat
  deriving Repr, DecidableEq

/-- The count of bytes that characters take in UTF-8. -/
def byteSize (text : List Char) : Nat :=
  text.foldr (fun c size => c.utf8Size + size) 0

/-- A fault found in front of `rest`. -/
def Fault.before (problem : Problem) (rest : List Char) : Fault :=
  ⟨problem, byteSize rest⟩

/-- A fault found just behind the first byte of `rest`, or at its end if there is none. -/
def Fault.inFirst (problem : Problem) (rest : List Char) : Fault :=
  ⟨problem, byteSize rest - 1⟩

/-- A line, counted from one, and the count of bytes before the place on that line. -/
structure Place where
  line : Nat
  column : Nat
  deriving Repr, DecidableEq

/-- The place that lies `count` bytes further on, where `text` follows. -/
def Place.advance (place : Place) : List Char → Nat → Place
  | [], count => ⟨place.line, place.column + count⟩
  | c :: rest, count =>
      if c.utf8Size ≤ count then
        let next : Place :=
          if c = '\n' then ⟨place.line + 1, 0⟩ else ⟨place.line, place.column + c.utf8Size⟩
        next.advance rest (count - c.utf8Size)
      else
        ⟨place.line, place.column + count⟩

end Json

/-- Why and where a text is not JSON. -/
structure JsonError where
  problem : Json.Problem
  place : Json.Place
  deriving Repr, DecidableEq

namespace JsonError

/-- The error of a fault in a text. -/
def ofFault (text : List Char) (fault : Json.Fault) : JsonError :=
  ⟨fault.problem, Json.Place.advance ⟨1, 0⟩ text (Json.byteSize text - fault.unread)⟩

/-- The error in words, with its place. -/
def message (error : JsonError) : String :=
  error.problem.message ++ " at line " ++ toString error.place.line ++ " column " ++
    toString error.place.column

end JsonError

end ApiShapes
