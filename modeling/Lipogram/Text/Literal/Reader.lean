import Lipogram.Text.Literal

/-!
# Reading literals

What a literal stands for. A literal is read from its opening mark to the first mark of the same
kind that is not escaped; between the two, a backslash begins an escape.
-/

set_option autoImplicit false

namespace Lipogram.Text

/-- The value of a digit of base sixteen, in lower case. -/
def hexDigit? (c : Char) : Option Nat :=
  if c.isDigit then some (c.toNat - 48)
  else if 'a' ≤ c && c ≤ 'f' then some (c.toNat - 87)
  else none

/-- The character that a letter behind a backslash stands for. -/
def unescape? : Char → Option Char
  | '\x5c' => some '\x5c'
  | 'n' => some '\n'
  | 'r' => some '\r'
  | 't' => some '\t'
  | '\x27' => some '\x27'
  | '\x22' => some '\x22'
  | _ => none

/-- The characters up to the closing mark of a literal, and what follows the mark. -/
def readLiteralBody (mark : Char) : List Char → Option (List Char × List Char)
  | [] => none
  | '\x5c' :: 'x' :: a :: b :: cs => do
    let high ← hexDigit? a
    let low ← hexDigit? b
    let (text, rest) ← readLiteralBody mark cs
    pure (Char.ofNat (16 * high + low) :: text, rest)
  | '\x5c' :: c :: cs => do
    let d ← unescape? c
    let (text, rest) ← readLiteralBody mark cs
    pure (d :: text, rest)
  | c :: cs =>
    if c = mark then some ([], cs)
    else do
      let (text, rest) ← readLiteralBody mark cs
      pure (c :: text, rest)

/-- The text that a literal stands for, and what follows the literal. A literal begins with an
apostrophe or a double quote. -/
def readLiteral : List Char → Option (List Char × List Char)
  | '\x27' :: cs => readLiteralBody '\x27' cs
  | '\x22' :: cs => readLiteralBody '\x22' cs
  | _ => none

end Lipogram.Text
