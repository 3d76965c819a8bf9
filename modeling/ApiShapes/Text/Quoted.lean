import ApiShapes.Unicode.Printable

/-!
# Quoted text

A text is shown between double quotes so that every character can be seen.  A backslash introduces
the short escapes and the code point of a character that does not show by itself.
-/

namespace ApiShapes.Text

open ApiShapes.Unicode

/-- A code point in lowercase hexadecimal digits between braces, after a backslash and a `u`. -/
def codePointEscape (c : Char) : List Char :=
  '\\' :: 'u' :: '\x7b' :: (Nat.toDigits 16 c.toNat ++ ['\x7d'])

/-- How one character is written between the quotes. -/
def quotedChar (c : Char) : List Char :=
  if c = '\x00' then ['\\', '0']
  else if c = '\t' then ['\\', 't']
  else if c = '\r' then ['\\', 'r']
  else if c = '\n' then ['\\', 'n']
  else if c = '\\' then ['\\', '\\']
  else if c = '"' then ['\\', '"']
  else if isPrintable c then [c]
  else codePointEscape c

/-- The quoted form of a text. -/
def quoted (text : String) : String :=
  String.ofList ('"' :: (text.toList.flatMap quotedChar ++ ['"']))

end ApiShapes.Text
