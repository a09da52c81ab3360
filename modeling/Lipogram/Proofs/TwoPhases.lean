import Lipogram.Numeral
import Lipogram.Proofs.Agreement
import Lipogram.Proofs.Operations

/-!
# Evaluation in two phases

A source can be evaluated in two phases as well: it is read as a tree, and then the tree is
evaluated by recursion. For trees that are not too deep both ways agree, in values and in problems.
Behind the first phase no problem is a malformation, so no place of the source is left in it.
-/

set_option autoImplicit false

namespace Lipogram

/-- An outcome that is no malformation has no place, so it is told apart without it. -/
theorem WellFormed.eq_of_placeless {α : Type} {x y : Except Problem α} (semantic : WellFormed y)
    (h : placeless x = placeless y) : x = y := by
  cases y with
  | ok v => exact placeless_eq_ok.mp h
  | error problem =>
    have no_place : placeless (Except.error problem : Except Problem α) = .error problem := by
      cases problem with
      | malformed offset fault => exact absurd semantic id
      | _ => rfl
    rw [no_place] at h
    exact placeless_eq_error (semantic.of_eq_error rfl).ne_malformed h

/-- A source with the lexemes of a tree that is not too deep has the outcome of the tree. -/
theorem evaluate_of_lexemes {source : String} {e : Expr}
    (read : e.lexemes = Lexeme.ofSource source) (h : e.depth ≤ Reader.deepestLevel) :
    evaluate source = e.value := by
  have agreement : placeless (evaluate source) = placeless e.value := by
    rw [placeless_evaluate read, e.valueAt_of_depth (by omega)]
  exact e.value_semantic.eq_of_placeless agreement

/-- The written form of a tree that is not too deep has the outcome of the tree. -/
theorem evaluate_written (e : Expr) (h : e.depth ≤ Reader.deepestLevel) :
    evaluate e.text = e.value :=
  evaluate_of_lexemes (Lexeme.ofSource_text e).symm h

/-- Evaluation as the source is read agrees with evaluation of the tree: the written form of a tree
in which no expression lies deeper than the deepest level has the outcome of the tree, which is
never a malformation. -/
theorem evaluateText_eq_value (e : Expr) (h : e.depth ≤ 256) :
    evaluate e.text = e.value ∧
      ∀ offset fault, evaluate e.text ≠ .error (.malformed offset fault) := by
  have agreement : evaluate e.text = e.value := evaluate_written e h
  refine ⟨agreement, ?_⟩
  intro offset fault malformed
  rw [agreement] at malformed
  exact (e.value_semantic.of_eq_error malformed).ne_malformed offset fault rfl

/-- An item of a list, at the index that the numeral of one stands for. -/
theorem evaluateText_eq_value_item :
    (Term.pick (.list [Numeral.nothing, Numeral.tally 2]) (Numeral.expr 1)).toExpr.depth ≤ 256 ∧
      evaluate (Term.pick (.list [Numeral.nothing, Numeral.tally 2]) (Numeral.expr 1)).toExpr.text =
        .ok (.list [.list [], .list []]) := by
  refine ⟨by decide, ?_⟩
  exact (evaluateText_eq_value _ (by decide)).1

end Lipogram
