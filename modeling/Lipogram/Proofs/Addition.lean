import Lipogram.Value.Operations

/-!
# Addition of values

Which values can be added, and what their sum is (`add_eq_ok`). Values of all types are added by one
operation, and where they are added at all, addition is associative: a text is only added to texts,
a list to lists, and what stands for an integer to what stands for an integer.
-/

set_option autoImplicit false

namespace Lipogram

namespace Value

/-- What values have for a sum: texts and lists are joined, and values that stand for integers give
the sum of these. -/
inductive Adds : Value → Value → Value → Prop where
  | texts (s t : String) : Adds (.str s) (.str t) (.str (s ++ t))
  | lists (vs ws : List Value) : Adds (.list vs) (.list ws) (.list (vs ++ ws))
  | integers {a b : Value} {m n : Int} (left : a.toInt? = some m) (right : b.toInt? = some n) :
    Adds a b (.int (m + n))

/-- Values that stand for integers are added as such. -/
theorem add_integers {a b : Value} {m n : Int} (left : a.toInt? = some m)
    (right : b.toInt? = some n) : a.add b = .ok (.int (m + n)) := by
  unfold add
  split
  · simp [toInt?] at left
  · simp [toInt?] at left
  · rw [left, right]

/-- A sum in the sense of `Adds` is what addition gives. -/
theorem Adds.add_eq {a b c : Value} (h : Adds a b c) : a.add b = .ok c := by
  cases h with
  | texts s t => rfl
  | lists vs ws => rfl
  | integers left right => exact add_integers left right

/-- Two values have a sum, or their types clash. -/
theorem add_cases (a b : Value) :
    (∃ c, a.add b = .ok c ∧ Adds a b c) ∨
      a.add b = .error (.clash (.notAddable a.kind b.kind)) := by
  unfold add
  split
  · next s t => exact .inl ⟨_, rfl, .texts s t⟩
  · next vs ws => exact .inl ⟨_, rfl, .lists vs ws⟩
  · split
    · next m n left right => exact .inl ⟨_, rfl, .integers left right⟩
    · exact .inr rfl

/-- Addition gives a value exactly if that value is a sum. -/
theorem add_eq_ok {a b c : Value} : a.add b = .ok c ↔ Adds a b c := by
  constructor
  · intro h
    rcases add_cases a b with ⟨d, sum, adds⟩ | clash
    · rw [sum] at h
      obtain rfl := Except.ok.inj h
      exact adds
    · simp [clash] at h
  · exact Adds.add_eq

/-- What is added in front of a sum can be added to its left operand first. -/
theorem Adds.assoc {a b c bc abc : Value} (inner : Adds b c bc) (outer : Adds a bc abc) :
    ∃ ab, Adds a b ab ∧ Adds ab c abc := by
  -- the type of the sum `bc` leaves one rule for the outer sum
  cases inner with
  | texts s t =>
    cases outer with
    | texts r _ =>
      rw [← String.append_assoc]
      exact ⟨_, .texts r s, .texts (r ++ s) t⟩
    | integers _ right => simp [toInt?] at right
  | lists vs ws =>
    cases outer with
    | lists us _ =>
      rw [← List.append_assoc]
      exact ⟨_, .lists us vs, .lists (us ++ vs) ws⟩
    | integers _ right => simp [toInt?] at right
  | @integers _ _ m n left right =>
    cases outer with
    | @integers _ _ l _ first second =>
      obtain rfl := Option.some.inj second
      rw [← Int.add_assoc]
      exact ⟨_, .integers first left, .integers rfl right⟩

/-- Where the sums of neighbours exist, so does the sum of all three. -/
theorem Adds.extend {a b c ab bc : Value} (first : Adds a b ab) (second : Adds b c bc) :
    ∃ abc, Adds a bc abc := by
  cases second with
  | texts s t =>
    cases first with
    | texts r _ => exact ⟨_, .texts r (s ++ t)⟩
    | integers _ right => simp [toInt?] at right
  | lists vs ws =>
    cases first with
    | lists us _ => exact ⟨_, .lists us (vs ++ ws)⟩
    | integers _ right => simp [toInt?] at right
  | integers left right =>
    cases first with
    | texts r s => simp [toInt?] at left
    | lists us vs => simp [toInt?] at left
    | integers outer _ => exact ⟨_, .integers outer rfl⟩

end Value

end Lipogram
