import Lipogram.Expr
import Lipogram.Value.Operations

/-!
# The meaning of expressions

The value of an expression, by recursion on the tree and without any limit on its depth. Parts are
evaluated from left to right, an unknown name is a problem before its arguments are looked at, and
the first problem is the outcome.
-/

set_option autoImplicit false

namespace Lipogram

/-- The built-in that a name stands for. -/
def Name.builtin (n : Name) : Except Problem Builtin :=
  match Builtin.ofName? n.text with
  | some f => .ok f
  | none => .error (.unknownName n.text)

mutual

/-- The value of an expression: the sum of the values of its terms, added from the left. -/
def Expr.value : Expr → Except Problem Value
  | .sum first rest => first.value.bind (Term.addAll rest)

/-- The value of a term. -/
def Term.value : Term → Except Problem Value
  | .name n => n.builtin.map .builtin
  | .call n args => n.builtin.bind (fun f => (Expr.values args).bind f.call)
  | .list items => (Expr.values items).map .list
  | .pick base index => base.value.bind (fun v => index.value.bind v.pick)

/-- A sum with the values of more terms added to it. -/
def Term.addAll : List Term → Value → Except Problem Value
  | [], sum => .ok sum
  | t :: ts, sum => t.value.bind (fun v => (sum.add v).bind (Term.addAll ts))

/-- The values of expressions, one after the other. -/
def Expr.values : List Expr → Except Problem (List Value)
  | [] => .ok []
  | e :: es => e.value.bind (fun v => (Expr.values es).map (v :: ·))

end

end Lipogram
