import Lipogram.Expr.Level
import Lipogram.Expr.Meaning
import Lipogram.Numeral
import Lipogram.Proofs.Outcomes

/-!
# Values and levels of numerals

What a numeral evaluates to, as a number that is counted or as the truth that stands for the number
one, and how deep it is nested. How a numeral is made does not matter to anything that is proved
with these facts.
-/

set_option autoImplicit false

namespace Lipogram

/-- A term that stands alone has its own value. -/
theorem Term.toExpr_value (t : Term) : t.toExpr.value = t.value :=
  bind_ok t.value

/-- A term is as deep on its own as in a sum. -/
theorem Term.toExpr_depth (t : Term) : t.toExpr.depth = t.depth :=
  Nat.max_zero t.depth

/-- The name of a built-in stands for the built-in. -/
@[simp]
theorem Builtin.toName_builtin (f : Builtin) : f.toName.builtin = .ok f := by
  unfold Name.builtin
  rw [text_toName, ofName_name]

/-- A call with one argument. -/
theorem Term.call_value (f : Builtin) (e : Expr) :
    (call f.toName [e]).value = e.value.bind (fun v => f.call [v]) := by
  simp [value, Expr.values, map_eq_bind, bind_bind]

/-- The argument of a call is one level deeper. -/
theorem Term.call_depth (n : Name) (e : Expr) : (call n [e]).depth = e.depth + 1 :=
  Nat.max_zero (e.depth + 1)

namespace Numeral

/-- What the numeral of a number evaluates to. -/
def value (n : Nat) : Value :=
  if n = 1 then .bool true else .int n

/-- The value of a numeral stands for its number. -/
theorem value_toInt (n : Nat) : (value n).toInt = .ok (n : Int) := by
  unfold value
  by_cases one : n = 1
  · rw [if_pos one, one]
    rfl
  · rw [if_neg one]
    rfl

/-- The empty list has itself for its value. -/
theorem nothing_value : nothing.value = .ok (.list []) := rfl

/-- Repeated empty lists have empty lists for their values. -/
theorem values_replicate_nothing (n : Nat) :
    Expr.values (List.replicate n nothing) = .ok (List.replicate n (.list [])) := by
  induction n with
  | zero => rfl
  | succ n ih =>
    rw [List.replicate_succ, List.replicate_succ, Expr.values, nothing_value, ih]
    rfl

/-- A tally is a list of empty lists. -/
theorem tally_value (n : Nat) : (tally n).value = .ok (.list (List.replicate n (.list []))) := by
  unfold tally
  rw [Term.toExpr_value, Term.value, values_replicate_nothing]
  rfl

/-- The value of a numeral. -/
theorem expr_value (n : Nat) : (expr n).value = .ok (value n) := by
  unfold expr term
  rw [Term.toExpr_value, Term.call_value, tally_value, ok_bind]
  unfold value
  by_cases one : n = 1
  · rw [if_pos one, if_pos one, one]
    rfl
  · rw [if_neg one, if_neg one]
    show Value.length (.list (List.replicate n (.list []))) = .ok (.int n)
    simp [Value.length]

/-- Empty lists inside a bracket add one level. -/
theorem depth_replicate_nothing (n : Nat) :
    Expr.depthInside (List.replicate n nothing) ≤ 1 := by
  induction n with
  | zero => decide
  | succ n ih =>
    have alone : nothing.depth = 0 := rfl
    rw [List.replicate_succ, Expr.depthInside, alone]
    omega

/-- A numeral is at most two levels deep. -/
theorem expr_depth (n : Nat) : (expr n).depth ≤ 2 := by
  unfold expr term tally
  rw [Term.toExpr_depth, Term.call_depth, Term.toExpr_depth, Term.depth]
  have inside := depth_replicate_nothing n
  omega

end Numeral

end Lipogram
