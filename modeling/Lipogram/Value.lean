import Lipogram.Builtin
import Lipogram.Text.Literal

/-!
# Values

Values of expressions: integers, truth values, texts, lists of values, and built-ins as values.
The printed form of a value is the text itself for a text, and its literal for every other value;
inside a list each item is printed as its literal.
-/

set_option autoImplicit false

namespace Lipogram

/-- What an expression evaluates to. -/
inductive Value where
  | int (n : Int)
  | bool (b : Bool)
  | str (s : String)
  | list (items : List Value)
  | builtin (f : Builtin)

namespace Value

/-- The name of a value's type. -/
def kind : Value → String
  | int _ => "int"
  | bool _ => "bool"
  | str _ => "str"
  | list _ => "list"
  | builtin f => if f.isType then "type" else "builtin_function_or_method"

/-- Zero, false, the empty text and the empty list are not truthy, all else is. -/
def isTruthy : Value → Bool
  | int n => n != 0
  | bool b => b
  | str s => !s.isEmpty
  | list items => !items.isEmpty
  | builtin _ => true

/-- The integer that a value stands for: truth values stand for 0 and 1. -/
def toInt? : Value → Option Int
  | int n => some n
  | bool b => some (if b then 1 else 0)
  | _ => none

/-- How a value is printed inside a list. -/
def literal : Value → String
  | int n => toString n
  | bool b => if b then "True" else "False"
  | str s => Text.literal s
  | list items => "[" ++ ", ".intercalate (items.map literal) ++ "]"
  | builtin f => f.text

/-- How a value is printed. -/
def text : Value → String
  | str s => s
  | v => v.literal

end Value

end Lipogram
