import Lipogram.Proofs.Alphabet
import Lipogram.Proofs.Contents
import Lipogram.Proofs.Literals
import Mathlib.Data.Nat.Digits.Defs

/-!
# Weights of values

A measure of values that no operation adds much to, whatever kind of value it makes: the weight of a
value bounds the numbers and lengths in it, and what an operation makes weighs at most as much as
the values that it works on, and the name and the parentheses of a call (`call_weight`). Only the
printed form of a list may weigh more, because the literals of texts are longer than the texts.
-/

set_option autoImplicit false

namespace Lipogram

namespace Value

/-! ## Weights -/

mutual

/-- The weight of a value. A built-in weighs what the letters of its name do, three for each. -/
def weight : Value → Nat
  | int n => n.natAbs
  | bool _ => 1
  | str s => s.length
  | list items => weights items
  | builtin f => 3 * f.name.length

/-- The weight of the items of a list, one more for each of them than it has on its own. -/
def weights : List Value → Nat
  | [] => 0
  | v :: vs => v.weight + 1 + weights vs

end

/-- Values behind each other weigh what both stretches do. -/
theorem weights_append (vs ws : List Value) : weights (vs ++ ws) = weights vs + weights ws := by
  induction vs with
  | nil => simp [weights]
  | cons v vs ih =>
    rw [List.cons_append, weights, weights, ih]
    omega

/-- The order of values does not count for their weight. -/
theorem weights_reverse (vs : List Value) : weights vs.reverse = weights vs := by
  induction vs with
  | nil => rfl
  | cons v vs ih =>
    rw [List.reverse_cons, weights_append, ih]
    simp only [weights]
    omega

/-- Each value weighs something. -/
theorem length_le_weights (vs : List Value) : vs.length ≤ weights vs := by
  induction vs with
  | nil => simp [weights]
  | cons v vs ih =>
    rw [List.length_cons, weights]
    omega

/-- An item weighs less than all items. -/
theorem weight_lt_of_mem {v : Value} {vs : List Value} (mem : v ∈ vs) : v.weight < weights vs := by
  induction vs with
  | nil => exact absurd mem List.not_mem_nil
  | cons w vs ih =>
    rw [weights]
    rcases List.mem_cons.mp mem with rfl | mem
    · omega
    · have rest := ih mem
      omega

/-- What a value contains weighs no more than the value. -/
theorem Contains.weight_le {v w : Value} (contains : v.Contains w) : w.weight ≤ v.weight := by
  induction contains with
  | itself v => exact Nat.le_refl _
  | @inside items v w mem _ ih =>
    have item := weight_lt_of_mem mem
    rw [weight]
    omega

/-- An integer is no greater than the weight of its value. -/
theorem natAbs_le_weight {v : Value} {n : Int} (h : v.toInt? = some n) : n.natAbs ≤ v.weight := by
  cases v with
  | int m =>
    obtain rfl := Option.some.inj h
    exact Nat.le_refl _
  | bool b =>
    obtain rfl := Option.some.inj h
    cases b <;> simp [weight]
  | _ => simp [toInt?] at h

/-! ## Operations -/

/-- An outcome that weighs at most `bound`, if it is a value. -/
def Weighs (bound : Nat) (x : Except Problem Value) : Prop :=
  Holds (fun v => v.weight ≤ bound) (fun _ => True) x

/-- A bound on the weight may be raised. -/
theorem Weighs.mono {m n : Nat} {x : Except Problem Value} (weighs : Weighs m x) (h : m ≤ n) :
    Weighs n x := by
  cases x with
  | ok v => exact Nat.le_trans weighs h
  | error problem => trivial

/-- A sum weighs no more than its operands. -/
theorem add_weight (a b : Value) : Weighs (a.weight + b.weight) (a.add b) := by
  rcases add_cases a b with ⟨c, sum, adds⟩ | clash
  · rw [sum]
    show c.weight ≤ a.weight + b.weight
    cases adds with
    | texts s t => simp [weight]
    | lists vs ws => simp [weight, weights_append]
    | @integers _ _ m n left right =>
      have first := natAbs_le_weight left
      have second := natAbs_le_weight right
      have sum := Int.natAbs_add_le m n
      rw [weight]
      omega
  · rw [clash]
    trivial

/-- What a subscript picks weighs no more than what it is picked from. -/
theorem pick_weight (base index : Value) : Weighs base.weight (base.pick index) := by
  unfold pick
  split
  · trivial
  · next n _ =>
    split
    · next s =>
      apply (itemAt_mem s.toList n).map
      intro c mem
      have some_letter := List.length_pos_of_mem mem
      rw [String.length_toList] at some_letter
      simpa [weight] using Nat.succ_le_of_lt some_letter
    · next items =>
      have picked := itemAt_mem items n
      cases found : itemAt items n with
      | ok v => exact Nat.le_of_lt (weight_lt_of_mem (picked.of_eq_ok found))
      | error problem => trivial
    · trivial

/-- A length is no heavier than the value that it is the length of. -/
theorem length_weight (v : Value) : Weighs v.weight v.length := by
  unfold length
  split
  · next s => simp [Weighs, Holds, weight]
  · next items =>
    have count := length_le_weights items
    simpa [Weighs, Holds, weight] using count
  · trivial

/-- A character weighs one. -/
theorem character_weight (code : Value) : Weighs 1 code.character := by
  unfold character
  split
  · trivial
  · split
    · simp [Weighs, Holds, weight]
    · trivial

/-- An integer is printed with at most as many characters as it counts, and two more. -/
theorem literal_int_length (n : Int) : (int n).literal.length ≤ n.natAbs + 2 := by
  have power : n.natAbs < 10 ^ (n.natAbs + 1) :=
    Nat.lt_of_succ_lt (Nat.lt_pow_self (by decide))
  have digits : (Nat.toDigits 10 n.natAbs).length ≤ n.natAbs + 1 :=
    Nat.toDigits_length 10 n.natAbs (n.natAbs + 1) (by omega) power
  rw [← String.length_toList, literal_int, List.length_append]
  split
  · rw [List.length_singleton]
    omega
  · rw [List.length_nil]
    omega

/-- The printed form of a value that is no list is hardly longer than the value weighs. -/
theorem text_weight {v : Value} (noList : ∀ items, v ≠ .list items) :
    v.text.length ≤ v.weight + 15 := by
  cases v with
  | int n =>
    have printed := literal_int_length n
    rw [text, weight]
    · omega
    · simp
  | bool b =>
    rw [text, literal, weight]
    · cases b <;> decide
    · simp
  | str s => simp [text, weight]
  | list items => exact absurd rfl (noList items)
  | builtin f =>
    rw [text, literal, weight]
    · cases f <;> decide
    · simp

end Value

/-- What a call makes weighs no more than its arguments and the characters of the call, unless a
list is printed. -/
theorem Builtin.call_weight (f : Builtin) (args : List Value)
    (noList : f = .str → ∀ items, args ≠ [.list items]) :
    Value.Weighs (3 * f.name.length + 5 + Value.weights args) (f.call args) := by
  have single (v : Value) : Value.weights [v] = v.weight + 1 := rfl
  cases f with
  | len =>
    rcases args with _ | ⟨v, _ | ⟨w, rest⟩⟩
    · trivial
    · refine v.length_weight.mono ?_
      rw [single]
      omega
    · trivial
  | chr =>
    rcases args with _ | ⟨v, _ | ⟨w, rest⟩⟩
    · trivial
    · refine v.character_weight.mono ?_
      omega
    · trivial
  | bool =>
    rcases args with _ | ⟨v, _ | ⟨w, rest⟩⟩
    · show 1 ≤ _
      omega
    · show 1 ≤ _
      omega
    · trivial
  | str =>
    rcases args with _ | ⟨v, _ | ⟨w, rest⟩⟩
    · exact Nat.zero_le _
    · have printed : v.text.length ≤ v.weight + 15 := by
        refine Value.text_weight (fun items list => ?_)
        rw [list] at noList
        exact noList rfl items rfl
      have name : Builtin.str.name.length = 3 := rfl
      show v.text.length ≤ _
      rw [single, name]
      omega
    · trivial
  | _ => trivial

end Lipogram
