import Lipogram.Problem
import Lipogram.Value

/-!
# Operations on values

The operations that expressions are built from: calls of built-ins, sums, and subscripts. Each
gives a value or the problem that stands in its way.
-/

set_option autoImplicit false

namespace Lipogram

/-- The character with a code, if the code is a Unicode scalar value. -/
def charOfCode? (code : Int) : Option Char :=
  if h : 0 ≤ code ∧ code.toNat.isValidChar then some (Char.ofNatAux code.toNat h.2) else none

/-- Where an index points in a sequence; a negative index counts from the end. -/
def position? (index : Int) (length : Nat) : Option Nat :=
  let place := if index < 0 then index + length else index
  if 0 ≤ place ∧ place < length then some place.toNat else none

namespace Value

/-- The integer that a value stands for, or the clash that it stands for none. -/
def toInt (v : Value) : Except Problem Int :=
  match v.toInt? with
  | some n => .ok n
  | none => .error (.clash (.notInteger v.kind))

/-- Texts and lists are joined; integers, and truth values as integers, are added. -/
def add : Value → Value → Except Problem Value
  | str a, str b => .ok (str (a ++ b))
  | list a, list b => .ok (list (a ++ b))
  | a, b =>
    match a.toInt?, b.toInt? with
    | some m, some n => .ok (int (m + n))
    | _, _ => .error (.clash (.notAddable a.kind b.kind))

/-- The item of a sequence at an index. -/
def itemAt {α : Type} (items : List α) (index : Int) : Except Problem α :=
  match (position? index items.length).bind (items[·]?) with
  | some item => .ok item
  | none => .error (.outOfRange index items.length)

/-- The part of a text or list that a subscript picks: a text of one character, or an item. -/
def pick (base index : Value) : Except Problem Value :=
  match index.toInt with
  | .error problem => .error problem
  | .ok n =>
    match base with
    | str s => (itemAt s.toList n).map (fun c => str c.toString)
    | list items => itemAt items n
    | other => .error (.clash (.notSubscriptable other.kind))

/-- The number of characters of a text or of items of a list. -/
def length : Value → Except Problem Value
  | str s => .ok (int s.length)
  | list items => .ok (int items.length)
  | other => .error (.clash (.noLength other.kind))

/-- The text of the one character that a code stands for. -/
def character (code : Value) : Except Problem Value :=
  match code.toInt with
  | .error problem => .error problem
  | .ok n =>
    match charOfCode? n with
    | some c => .ok (str c.toString)
    | none => .error (.noCharacter n)

end Value

/-- The value of a call. Only four of the built-ins can be called. -/
def Builtin.call : Builtin → List Value → Except Problem Value
  | .len, [v] => v.length
  | .len, args => .error (.arity .len .exactlyOne args.length)
  | .chr, [v] => v.character
  | .chr, args => .error (.arity .chr .exactlyOne args.length)
  | .bool, [] => .ok (.bool false)
  | .bool, [v] => .ok (.bool v.isTruthy)
  | .bool, args => .error (.arity .bool .atMostOne args.length)
  | .str, [] => .ok (.str "")
  | .str, [v] => .ok (.str v.text)
  | .str, args => .error (.arity .str .atMostOne args.length)
  | f, _ => .error (.clash (.notCallable f))

end Lipogram
