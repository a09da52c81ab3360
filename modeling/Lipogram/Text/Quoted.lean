import Lipogram.Text.Visibility

/-!
# Quoted texts

How a text is shown in a message. A quoted text stands between double quotes, and every character
that could not be told from its neighbours there is written as an escape. Unlike a literal, a quoted
text is read by people.
-/

set_option autoImplicit false

namespace Lipogram.Text

/-- The digits of a number in base sixteen, in lower case. -/
def hexDigits (n : Nat) : List Char :=
  Nat.toDigits 16 n

/-- The escape of a character by its code. -/
def codeEscape (c : Char) : List Char :=
  ['\x5c', 'u', '\x7b'] ++ hexDigits c.toNat ++ ['\x7d']

/-- The spelling of one character inside quotes. An apostrophe cannot be mistaken for the end of the
text, and stands as it is. -/
def quotedChar (c : Char) : List Char :=
  if c = '\x00' then ['\x5c', '0']
  else if c = '\t' then ['\x5c', 't']
  else if c = '\r' then ['\x5c', 'r']
  else if c = '\n' then ['\x5c', 'n']
  else if c = '\x5c' || c = '\x22' then ['\x5c', c]
  else if isExtending c || isShapeless c then codeEscape c
  else [c]

/-- A text, or the path of a file, between double quotes. -/
def quoted (text : String) : String :=
  String.ofList ('\x22' :: (text.toList.flatMap quotedChar ++ ['\x22']))

end Lipogram.Text
