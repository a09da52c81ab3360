import Lipogram.Evaluation
import Lipogram.Proofs.Addition
import Lipogram.Proofs.Invariants

/-!
# Problems of operations

An operation on values can meet a problem, but never a malformation: those are met by reading alone.
So is it with what the machine does with values, and with the evaluation of a tree.
-/

set_option autoImplicit false

namespace Lipogram

/-- A problem that is met in evaluation, and not in the form of the source. -/
def Problem.IsSemantic : Problem → Prop
  | .malformed _ _ => False
  | _ => True

/-- What is met in evaluation is no malformation. -/
theorem Problem.IsSemantic.ne_malformed {problem : Problem} (semantic : problem.IsSemantic)
    (offset : Nat) (fault : Malformation) : problem ≠ .malformed offset fault := by
  rintro rfl
  exact semantic

/-- An outcome that is no malformation. -/
def WellFormed {α : Type} (outcome : Except Problem α) : Prop :=
  Holds (fun _ => True) Problem.IsSemantic outcome

/-- An outcome that is well formed is no malformation. -/
theorem WellFormed.ne_malformed {α : Type} {outcome : Except Problem α} (h : WellFormed outcome)
    (offset : Nat) (fault : Malformation) : outcome ≠ .error (.malformed offset fault) := by
  intro malformed
  exact (h.of_eq_error malformed).ne_malformed offset fault rfl

/-! ## Operations on values -/

/-- Taking a value for an integer meets no malformation. -/
theorem toInt_semantic (v : Value) : WellFormed v.toInt := by
  unfold Value.toInt
  split <;> trivial

/-- Addition meets no malformation. -/
theorem add_semantic (a b : Value) : WellFormed (a.add b) := by
  rcases Value.add_cases a b with ⟨c, sum, -⟩ | clash
  · rw [sum]
    trivial
  · rw [clash]
    trivial

/-- Taking an item at an index meets no malformation. -/
theorem itemAt_semantic {α : Type} (items : List α) (index : Int) :
    WellFormed (Value.itemAt items index) := by
  unfold Value.itemAt
  split <;> trivial

/-- A subscript meets no malformation. -/
theorem pick_semantic (base index : Value) : WellFormed (base.pick index) := by
  unfold Value.pick
  split
  · next problem met => exact (toInt_semantic index).of_eq_error met
  · next n _ =>
    split
    · exact (itemAt_semantic _ n).map (fun _ _ => trivial)
    · exact itemAt_semantic _ n
    · trivial

/-- Asking for a length meets no malformation. -/
theorem length_semantic (v : Value) : WellFormed v.length := by
  unfold Value.length
  split <;> trivial

/-- Asking for the character of a code meets no malformation. -/
theorem character_semantic (code : Value) : WellFormed code.character := by
  unfold Value.character
  split
  · next problem met => exact (toInt_semantic code).of_eq_error met
  · split <;> trivial

/-- A call meets no malformation. -/
theorem call_semantic (f : Builtin) (args : List Value) : WellFormed (f.call args) := by
  unfold Builtin.call
  split
  -- only `len` and `chr` of one value lead on to another operation
  case h_1 => exact length_semantic _
  case h_3 => exact character_semantic _
  all_goals trivial

/-- No operation on values gives a malformation. -/
theorem kept_semantic : Kept (fun _ => True) (fun _ => True) Problem.IsSemantic where
  unknownName _ := trivial
  builtin _ _ := trivial
  list _ _ := trivial
  call f args _ _ := call_semantic f args
  add a b _ _ := add_semantic a b
  pick base index _ _ := pick_semantic base index

/-- The evaluation of a tree meets no malformation. -/
theorem Expr.value_semantic (e : Expr) : WellFormed e.value :=
  e.value_holds kept_semantic (fun _ _ _ _ => trivial)

/-! ## Operations of the machine -/

namespace Reader

/-- Adding the last term of a sum meets no malformation. -/
theorem total_semantic (left : Option Value) (v : Value) : WellFormed (total left v) := by
  cases left with
  | none => trivial
  | some sum => exact add_semantic sum v

/-- Making the value of a bracket full of items meets no malformation. -/
theorem make_semantic (maker : Maker) (items : List Value) : WellFormed (maker.make items) := by
  cases maker with
  | list => trivial
  | call f => exact call_semantic f items

/-- Looking a name up meets no malformation. -/
theorem named_semantic (letters : List Char) : WellFormed (State.named letters) := by
  simp only [State.named]
  split <;> trivial

end Reader

end Lipogram
