import ApiShapes.Artifact
import ApiShapes.Decimal.Layout

/-!
# PHP literals

Strings are written between single quotes, where only the quote and the backslash are escaped.  A
floating-point number always has a fraction or an exponent, so that PHP does not read an integer.
-/

namespace ApiShapes.Php

/-- How one character is written in a single-quoted string. -/
def escapeChar (c : Char) : List Char :=
  if c = '\\' ∨ c = '\x27' then ['\\', c] else [c]

/-- A single-quoted string literal. -/
def stringLiteral (s : String) : String :=
  String.ofList ('\x27' :: (s.toList.flatMap escapeChar ++ ['\x27']))

/-- Floating-point literals are written plainly from `0.0001` up to below `10 ^ 16`. -/
def floatLayout : Decimal.Layout := ⟨-4, 15, false, .larger⟩

/-- The literal of a default value. -/
def literal : Literal → String
  | .bool b => toString b
  | .integer i => toString i.toInt
  | .float x => floatLayout.text x
  | .string s => stringLiteral s

end ApiShapes.Php
