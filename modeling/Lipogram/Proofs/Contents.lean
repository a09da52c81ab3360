import Lipogram.Value

/-!
# Contents of values

What a value holds: itself, and if it is a list whatever its items hold. Properties of all numbers
in a value, at any depth, are stated with it.
-/

set_option autoImplicit false

namespace Lipogram.Value

/-- A value holds itself, and a list what its items hold. -/
inductive Contains : Value → Value → Prop where
  | itself (v : Value) : Contains v v
  | inside {items : List Value} {v w : Value} (mem : v ∈ items) (contains : Contains v w) :
    Contains (.list items) w

/-- A value that is, or holds inside a list, an integer or a truth value. -/
def HasNumber (v : Value) : Prop :=
  ∃ w n, v.Contains w ∧ w.toInt? = some n

/-- A value that stands for an integer has a number. -/
theorem HasNumber.of_toInt {v : Value} {n : Int} (h : v.toInt? = some n) : v.HasNumber :=
  ⟨v, n, .itself v, h⟩

/-- A list has the numbers of its items. -/
theorem HasNumber.of_mem {items : List Value} {v : Value} (mem : v ∈ items) (h : v.HasNumber) :
    (Value.list items).HasNumber := by
  obtain ⟨w, n, contains, number⟩ := h
  exact ⟨w, n, .inside mem contains, number⟩

end Lipogram.Value
