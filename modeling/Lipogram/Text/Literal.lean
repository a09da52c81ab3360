/-!
# Literals of texts

A literal is a text between quotation marks; the characters that cannot stand there as they are, are
written as escapes. This is how a text looks inside the printed form of a list.
-/

set_option autoImplicit false

namespace Lipogram.Text

/-- The digit of a number below sixteen, in lower case. -/
def hexDigit (n : Nat) : Char :=
  if n < 10 then Char.ofNat (48 + n) else Char.ofNat (87 + n)

/-- The control characters of ASCII. -/
def isControl (c : Char) : Bool :=
  c.toNat < 0x20 || c.toNat == 0x7F

/-- A literal stands between apostrophes, unless its text holds an apostrophe and no double
quote. -/
def quoteMark (cs : List Char) : Char :=
  if cs.contains '\x27' && !cs.contains '\x22' then '\x22' else '\x27'

/-- The spelling of one character inside a literal with the given mark. -/
def literalChar (mark c : Char) : List Char :=
  if c = '\x5c' then ['\x5c', '\x5c']
  else if c = '\n' then ['\x5c', 'n']
  else if c = '\r' then ['\x5c', 'r']
  else if c = '\t' then ['\x5c', 't']
  else if c = mark then ['\x5c', c]
  else if isControl c then ['\x5c', 'x', hexDigit (c.toNat / 16), hexDigit (c.toNat % 16)]
  else [c]

/-- The literal of a list of characters: mark, spelled characters, mark. -/
def literalChars (cs : List Char) : List Char :=
  quoteMark cs :: (cs.flatMap (literalChar (quoteMark cs)) ++ [quoteMark cs])

/-- The literal of a text. -/
def literal (text : String) : String :=
  String.ofList (literalChars text.toList)

end Lipogram.Text
