import Lipogram.Proofs.Addition
import Lipogram.Proofs.Composites

/-!
# Sums of sources

A plus sign between two sources adds their values (`evaluate_plus`). The second source may be a sum
itself; its terms are then added to the value of the first source one after the other, and because
addition is associative that comes to the same.
-/

set_option autoImplicit false

namespace Lipogram

open Value

/-! ## Terms that are added one by one -/

/-- Adding the sum of some terms is adding them one by one. -/
theorem Term.addAll_from {ts : List Term} {a b total sum : Value} (terms : addAll ts b = .ok total)
    (adds : Adds a total sum) : ∃ start, Adds a b start ∧ addAll ts start = .ok sum := by
  induction ts generalizing b with
  | nil =>
    obtain rfl := Except.ok.inj terms
    exact ⟨sum, adds, rfl⟩
  | cons t ts ih =>
    -- `a` is added in front of the rest first, and then moved in front of the term `t`
    obtain ⟨v, value, terms⟩ := bind_eq_ok.mp terms
    obtain ⟨next, added, terms⟩ := bind_eq_ok.mp terms
    obtain ⟨behind, adds_next, rest⟩ := ih terms
    obtain ⟨start, adds_start, adds_term⟩ := (add_eq_ok.mp added).assoc adds_next
    refine ⟨start, adds_start, ?_⟩
    rw [addAll, value, ok_bind, adds_term.add_eq, ok_bind, rest]

/-- If the first of some terms can be added, so can their sum. -/
theorem Term.adds_total {ts : List Term} {a b total start : Value} (terms : addAll ts b = .ok total)
    (adds : Adds a b start) : ∃ sum, Adds a total sum := by
  induction ts generalizing b start with
  | nil =>
    obtain rfl := Except.ok.inj terms
    exact ⟨start, adds⟩
  | cons t ts ih =>
    obtain ⟨v, value, terms⟩ := bind_eq_ok.mp terms
    obtain ⟨next, added, terms⟩ := bind_eq_ok.mp terms
    obtain ⟨behind, adds_next⟩ := adds.extend (add_eq_ok.mp added)
    exact ih terms adds_next

/-- The value of two joined expressions is the sum of their values, or a clash with the type of the
first value if they have none. -/
theorem Expr.join_value_cases {e e' : Expr} {v w : Value} (left : e.value = .ok v)
    (right : e'.value = .ok w) :
    (∃ sum, v.add w = .ok sum ∧ (e.join e').value = .ok sum) ∨
      ∃ problem kind, v.add w = .error problem ∧
        (e.join e').value = .error (.clash (.notAddable v.kind kind)) := by
  obtain ⟨second, more⟩ := e'
  obtain ⟨first, value, terms⟩ := bind_eq_ok.mp right
  have joined : (e.join (.sum second more)).value = (v.add first).bind (Term.addAll more) := by
    rw [join_value, left, ok_bind, Term.addAll, value, ok_bind]
  rw [joined]
  rcases add_cases v w with ⟨sum, added, adds⟩ | clash
  · left
    obtain ⟨start, adds_first, rest⟩ := Term.addAll_from terms adds
    refine ⟨sum, added, ?_⟩
    rw [adds_first.add_eq, ok_bind, rest]
  · right
    refine ⟨_, first.kind, clash, ?_⟩
    rcases add_cases v first with ⟨start, -, adds⟩ | clash_first
    · obtain ⟨sum, adds_sum⟩ := Term.adds_total terms adds
      rw [adds_sum.add_eq] at clash
      simp at clash
    · rw [clash_first, error_bind]

/-! ## Sources -/

/-- A plus sign between two sources that have values adds the values: the whole has their sum for a
value, or if they have none, it is a clash of types. -/
theorem evaluate_plus {a b : String} {v w : Value} (left : evaluate a = .ok v)
    (right : evaluate b = .ok w) :
    (∀ sum, v.add w = .ok sum → evaluate (a ++ "+" ++ b) = .ok sum) ∧
      ∀ problem, v.add w = .error problem →
        ∃ kind, evaluate (a ++ "+" ++ b) = .error (.clash (.notAddable v.kind kind)) := by
  obtain ⟨e, read, shallow, value⟩ := exists_reading left
  obtain ⟨e', read', shallow', value'⟩ := exists_reading right
  have depth : (e.join e').depth ≤ Reader.deepestLevel := by
    rw [Expr.join_depth]
    omega
  have outcome : evaluate (a ++ "+" ++ b) = (e.join e').value :=
    evaluate_of_lexemes (Expr.reading_plus read read') depth
  rw [outcome]
  rcases Expr.join_value_cases value value' with ⟨s, added, joined⟩ | ⟨p, kind, clash, joined⟩
  · refine ⟨fun sum h => ?_, fun problem h => ?_⟩
    · rw [← h, added, joined]
    · simp [added] at h
  · refine ⟨fun sum h => ?_, fun problem h => ⟨kind, joined⟩⟩
    simp [clash] at h

/-- A sum of truth values behind a number, and the same sum behind a name. -/
theorem evaluate_plus_sum :
    evaluate "len([[]]) " = .ok (.int 1) ∧ evaluate " bool([[]])+bool([[]])" = .ok (.int 2) ∧
      evaluate "len([[]]) + bool([[]])+bool([[]])" = .ok (.int 3) ∧
      evaluate "str" = .ok (.builtin .str) ∧
      ∃ kind, evaluate "str+ bool([[]])+bool([[]])" = .error (.clash (.notAddable "type" kind)) := by
  have number : evaluate "len([[]]) " = .ok (.int 1) := by rfl
  have truths : evaluate " bool([[]])+bool([[]])" = .ok (.int 2) := by rfl
  have name : evaluate "str" = .ok (.builtin .str) := by rfl
  exact ⟨number, truths, (evaluate_plus number truths).1 _ rfl, name,
    (evaluate_plus name truths).2 _ rfl⟩

end Lipogram
