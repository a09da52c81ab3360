import Lipogram.Expr

/-!
# Levels of expressions

How deep an expression is nested. An expression stands at level 0 on its own, and each item of a
list, argument of a call and index of a subscript stands one level below the expression around it.
A list or call without items adds no level.
-/

set_option autoImplicit false

namespace Lipogram

mutual

/-- The deepest level of an expression inside an expression at level 0. -/
def Expr.depth : Expr → Nat
  | .sum first rest => max first.depth (Term.depths rest)

/-- The deepest level of an expression inside a term of an expression at level 0. -/
def Term.depth : Term → Nat
  | .name _ => 0
  | .call _ args => Expr.depthInside args
  | .list items => Expr.depthInside items
  | .pick base index => max base.depth (index.depth + 1)

/-- The deepest level inside any of some terms. -/
def Term.depths : List Term → Nat
  | [] => 0
  | t :: ts => max t.depth (Term.depths ts)

/-- The deepest level inside a bracket that holds some expressions. -/
def Expr.depthInside : List Expr → Nat
  | [] => 0
  | e :: es => max (e.depth + 1) (Expr.depthInside es)

end

end Lipogram
