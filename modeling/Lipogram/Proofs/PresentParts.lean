import Lipogram.Descent

/-!
# Parts that are there

The parts of values that subscripts and calls take are there: a place that an index points at lies
inside of the sequence, and an argument is taken only where one is given. So these operations come
to what the operations on values come to, and to no fault (`pick_eq`, `call_eq`).
-/

set_option autoImplicit false

namespace Lipogram.Descent

/-- An index points inside of the sequence that it is resolved for. -/
theorem position_lt {index : Int} {length place : Nat} (h : position? index length = some place) :
    place < length := by
  simp only [position?] at h
  generalize (if index < 0 then index + length else index) = resolved at h
  split at h
  · next inside =>
    obtain rfl := Option.some.inj h
    omega
  · simp at h

/-- A place that an index resolves to is inside. -/
theorem place_lt {index : Int} {length at_place : Nat}
    (resolved : place index length = .ok at_place) : at_place < length := by
  unfold place at resolved
  cases found : position? index length with
  | none =>
    rw [found] at resolved
    simp at resolved
  | some i =>
    rw [found] at resolved
    obtain rfl := Except.ok.inj resolved
    exact position_lt found

/-- The item that is removed from a place inside of a list is the one that stands there. -/
theorem swapRemove_eq {α : Type} {items : List α} {place : Nat} (inside : place < items.length) :
    ∃ others, swapRemove? items place = some (items[place], others) := by
  have some_item : items ≠ [] := by
    rintro rfl
    simp at inside
  exact ⟨(items.set place (items.getLast some_item)).dropLast,
    by simp [swapRemove?, inside, List.getLast?_eq_some_getLast some_item]⟩

/-- A subscript picks what it does on values, and takes no part that is not there. -/
theorem pick_eq (base index : Value) : pick base index = ofOutcome (base.pick index) := by
  unfold pick Value.pick
  cases index.toInt with
  | error problem => rfl
  | ok n =>
    cases base with
    | str s =>
      show (place n s.toList.length).bind _ = ofOutcome ((Value.itemAt s.toList n).map _)
      unfold place Value.itemAt
      cases found : position? n s.toList.length with
      | none => rfl
      | some i =>
        have taken := List.getElem?_eq_getElem (position_lt found)
        simp only [Option.bind_some, taken]
        show (present s.toList[i]?).bind _ = _
        rw [taken]
        rfl
    | list items =>
      show (place n items.length).bind _ = ofOutcome (Value.itemAt items n)
      unfold place Value.itemAt
      cases found : position? n items.length with
      | none => rfl
      | some i =>
        have taken := List.getElem?_eq_getElem (position_lt found)
        obtain ⟨others, removed⟩ := swapRemove_eq (position_lt found)
        simp only [Option.bind_some, taken]
        show (present (swapRemove? items i)).bind _ = _
        rw [removed]
        rfl
    | _ => rfl

section

variable {index : Value} {n : Int} {i : Nat}

/-- An index that is resolved points at an item. -/
theorem itemAt_place {α : Type} {items : List α} (resolved : place n items.length = .ok i) :
    ∃ inside : i < items.length, Value.itemAt items n = .ok items[i] := by
  have inside := place_lt resolved
  refine ⟨inside, ?_⟩
  unfold place at resolved
  unfold Value.itemAt
  cases found : position? n items.length with
  | none =>
    rw [found] at resolved
    simp at resolved
  | some place =>
    rw [found] at resolved
    obtain rfl := Except.ok.inj resolved
    rw [Option.bind_some, List.getElem?_eq_getElem inside]

/-- A subscript of a text picks the character at the place where the index points. -/
theorem pick_text {s : String} (integer : index.toInt = .ok n)
    (resolved : place n s.toList.length = .ok i) :
    ∃ inside : i < s.toList.length, pick (.str s) index = .ok (.str s.toList[i].toString) := by
  obtain ⟨inside, item⟩ := itemAt_place resolved
  refine ⟨inside, ?_⟩
  rw [pick_eq, Value.pick, integer]
  dsimp only
  rw [item]
  rfl

/-- A subscript of a list picks the item at the place where the index points. -/
theorem pick_list {items : List Value} (integer : index.toInt = .ok n)
    (resolved : place n items.length = .ok i) :
    ∃ inside : i < items.length, pick (.list items) index = .ok items[i] := by
  obtain ⟨inside, item⟩ := itemAt_place resolved
  refine ⟨inside, ?_⟩
  rw [pick_eq, Value.pick, integer]
  dsimp only
  rw [item]
  rfl

end

/-- A call comes to what it does on values, and takes no argument that is not there. -/
theorem call_eq (f : Builtin) (args : List Value) : call f args = ofOutcome (f.call args) := by
  cases f <;> rcases args with _ | ⟨v, _ | ⟨w, rest⟩⟩ <;> rfl

end Lipogram.Descent
