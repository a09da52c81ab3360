import Lipogram.Expr

/-!
# Numerals without digits

A number is written as the length of a list with that many empty lists. Only the number one is
written as the truth of a list with one empty list, which stands for it wherever an integer is asked
for. A numeral is given as a tree (`Numeral.expr`) and as the text that is written
(`Numeral.render`).
-/

set_option autoImplicit false

namespace Lipogram.Numeral

/-- The empty list. -/
def nothing : Expr :=
  (Term.list []).toExpr

/-- The list with a number of empty lists. -/
def tally (n : Nat) : Expr :=
  (Term.list (List.replicate n nothing)).toExpr

/-- The numeral of a number. -/
def term (n : Nat) : Term :=
  .call (if n = 1 then Builtin.bool else Builtin.len).toName [tally n]

/-- The numeral of a number as an expression. -/
def expr (n : Nat) : Expr :=
  (term n).toExpr

/-- A text with a comma and an empty list pushed behind it, again and again. -/
def pushLists (out : String) : Nat → String
  | 0 => out
  | n + 1 => pushLists (out ++ "," ++ "[]") n

/-- The numeral of a number as a text, which is written from left to right. -/
def render : Nat → String
  | 0 => "len([])"
  | 1 => "bool([[]])"
  | n + 2 => pushLists ("len([" ++ "[]") (n + 1) ++ "])"

/-- The product of two machine words, if a word can hold it. -/
def checkedMul (a b : UInt64) : Option UInt64 :=
  if a.toNat * b.toNat < UInt64.size then some (a * b) else none

/-- The sum of two machine words, if a word can hold it. -/
def checkedAdd (a b : UInt64) : Option UInt64 :=
  if a.toNat + b.toNat < UInt64.size then some (a + b) else none

/-- The space, in bytes, that the numeral of a number above one takes, if a word can hold it: three
for each empty list with the comma behind it, and six for what stands around them. -/
def space? (n : UInt64) : Option UInt64 :=
  (checkedMul n 3).bind (checkedAdd · 6)

end Lipogram.Numeral

namespace Lipogram

/-- Why a number has no numeral. -/
inductive NumeralError where
  | negative (n : Int)
  deriving DecidableEq

/-- The wording of the error. -/
def NumeralError.message : NumeralError → String
  | negative n => "invalid argument: cannot synthesize negative number " ++ toString n

/-- The numeral of an integer; only natural numbers have one. -/
def numeral (n : Int) : Except NumeralError String :=
  if n < 0 then .error (.negative n) else .ok (Numeral.render n.toNat)

end Lipogram
