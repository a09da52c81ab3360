/-!
# Chains of outcomes

How values and problems pass through a chain of evaluations.
-/

set_option autoImplicit false

namespace Lipogram

variable {ε α β γ : Type}

/-- A chain goes on with the value of its first link. -/
@[simp]
theorem ok_bind (a : α) (f : α → Except ε β) : (Except.ok a).bind f = f a := rfl

/-- A chain ends at a problem. -/
@[simp]
theorem error_bind (e : ε) (f : α → Except ε β) : (Except.error e).bind f = .error e := rfl

/-- A value is mapped. -/
@[simp]
theorem ok_map (f : α → β) (a : α) : (Except.ok a : Except ε α).map f = .ok (f a) := rfl

/-- A problem is not. -/
@[simp]
theorem error_map (f : α → β) (e : ε) : (Except.error e).map f = .error e := rfl

/-- A chain has a value exactly if all of its links have. -/
theorem bind_eq_ok {x : Except ε α} {f : α → Except ε β} {b : β} :
    x.bind f = .ok b ↔ ∃ a, x = .ok a ∧ f a = .ok b := by
  cases x <;> simp

/-- A mapped outcome is a value exactly if the outcome is. -/
theorem map_eq_ok {x : Except ε α} {f : α → β} {b : β} :
    x.map f = .ok b ↔ ∃ a, x = .ok a ∧ f a = b := by
  cases x <;> simp

/-- The value that is left of an outcome is the one that it has. -/
theorem toOption_eq_some {x : Except ε α} {a : α} : x.toOption = some a ↔ x = .ok a := by
  cases x <;> simp [Except.toOption]

/-- Chains may be linked from either end. -/
theorem bind_bind (x : Except ε α) (f : α → Except ε β) (g : β → Except ε γ) :
    (x.bind f).bind g = x.bind (fun a => (f a).bind g) := by
  cases x <;> rfl

/-- Mapping is a link that has no problem. -/
theorem map_eq_bind (x : Except ε α) (f : α → β) : x.map f = x.bind (fun a => .ok (f a)) := by
  cases x <;> rfl

/-- A link that only passes the value on does nothing. -/
@[simp]
theorem bind_ok (x : Except ε α) : x.bind .ok = x := by
  cases x <;> rfl

end Lipogram
