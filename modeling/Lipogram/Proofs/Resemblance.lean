import Lipogram.Proofs.Addition
import Lipogram.Proofs.Contents
import Lipogram.Proofs.Outcomes
import Mathlib.Data.List.Forall2

/-!
# Truth values in the place of numbers

Values that are equal up to the exchange of true with one and false with zero, also inside lists.
All operations but printing take such values to such values, or to problems that differ in nothing
but their wording; and values without any number in them are only alike if they are equal, so
printing them is no exception.
-/

set_option autoImplicit false

namespace Lipogram

/-! ## Values and outcomes that are alike -/

/-- Values that are equal up to the exchange of truth values with the integers they stand for. -/
inductive Value.Alike : Value → Value → Prop where
  | integers {v w : Value} {n : Int} (left : v.toInt? = some n) (right : w.toInt? = some n) :
    Alike v w
  | str (s : String) : Alike (.str s) (.str s)
  | builtin (f : Builtin) : Alike (.builtin f) (.builtin f)
  | list {items others : List Value} (alike : List.Forall₂ Alike items others) :
    Alike (.list items) (.list others)

/-- Problems that are equal but for the types that clash. -/
inductive Problem.Alike : Problem → Problem → Prop where
  | same (problem : Problem) : Alike problem problem
  | clash (cause other : Clash) : Alike (.clash cause) (.clash other)

/-- Two outcomes are values with a relation between them, or problems that are alike. -/
inductive Related {α : Type} (R : α → α → Prop) : Except Problem α → Except Problem α → Prop where
  | values {a b : α} (related : R a b) : Related R (.ok a) (.ok b)
  | problems {problem other : Problem} (alike : problem.Alike other) :
    Related R (.error problem) (.error other)

/-- An outcome is related to itself if values are. -/
theorem Related.refl {α : Type} {R : α → α → Prop} (h : ∀ a, R a a) (x : Except Problem α) :
    Related R x x := by
  cases x with
  | ok a => exact .values (h a)
  | error problem => exact .problems (.same problem)

section

variable {α β : Type} {R : α → α → Prop} {S : β → β → Prop} {x y : Except Problem α}

/-- Of two outcomes that are related, both are the same malformation or none is. -/
theorem Related.malformed_iff (related : Related R x y) (offset : Nat) (fault : Malformation) :
    x = .error (.malformed offset fault) ↔ y = .error (.malformed offset fault) := by
  cases related with
  | values => simp
  | problems alike => cases alike <;> simp

/-- Chains are related if their links are. -/
theorem Related.bind {f g : α → Except Problem β} (related : Related R x y)
    (next : ∀ a b, x = .ok a → R a b → Related S (f a) (g b)) :
    Related S (x.bind f) (y.bind g) := by
  cases related with
  | values h => exact next _ _ rfl h
  | problems alike => exact .problems alike

/-- Outcomes that are related stay so when both are mapped alike. -/
theorem Related.map {f g : α → β} (related : Related R x y)
    (next : ∀ a b, R a b → S (f a) (g b)) : Related S (x.map f) (y.map g) := by
  rw [map_eq_bind, map_eq_bind]
  exact related.bind (fun a b _ h => .values (next a b h))

/-- What both outcomes begin with does not have to be compared. -/
theorem Related.bind_same {f g : α → Except Problem β}
    (next : ∀ a, x = .ok a → Related S (f a) (g a)) : Related S (x.bind f) (x.bind g) := by
  cases x with
  | ok a => exact next a rfl
  | error problem => exact .problems (.same problem)

end

namespace Value

/-- A value stands for the same integer as the values that are like it. -/
theorem Alike.toInt_eq {v w : Value} (alike : v.Alike w) : v.toInt? = w.toInt? := by
  cases alike with
  | integers left right => rw [left, right]
  | _ => rfl

mutual

/-- Values are alike if they are equal. -/
theorem alike_refl (v : Value) : v.Alike v :=
  match v with
  | .int _ => .integers rfl rfl
  | .bool _ => .integers rfl rfl
  | .str s => .str s
  | .builtin f => .builtin f
  | .list items => .list (items_alike_refl items)

/-- Equal items are alike. -/
theorem items_alike_refl (items : List Value) : List.Forall₂ Alike items items :=
  match items with
  | [] => .nil
  | v :: vs => .cons (alike_refl v) (items_alike_refl vs)

end

mutual

/-- Values are alike in either order. -/
theorem Alike.symm {v w : Value} (alike : v.Alike w) : w.Alike v :=
  match alike with
  | .integers left right => .integers right left
  | .str s => .str s
  | .builtin f => .builtin f
  | .list alike => .list (items_alike_symm alike)

/-- So are items. -/
theorem items_alike_symm {items others : List Value} (alike : List.Forall₂ Alike items others) :
    List.Forall₂ Alike others items :=
  match alike with
  | .nil => .nil
  | .cons first rest => .cons first.symm (items_alike_symm rest)

end

mutual

/-- Values without numbers are alike only if they are equal. -/
theorem eq_of_alike (v w : Value) (alike : v.Alike w) (h : ¬v.HasNumber) : v = w :=
  match v with
  | .int _ => absurd (.of_toInt rfl) h
  | .bool _ => absurd (.of_toInt rfl) h
  | .str s => by
    cases alike with
    | integers left right => simp [toInt?] at left
    | str => rfl
  | .builtin f => by
    cases alike with
    | integers left right => simp [toInt?] at left
    | builtin => rfl
  | .list items => by
    cases alike with
    | integers left right => simp [toInt?] at left
    | list alike =>
      rw [items_eq_of_alike items _ alike (fun v mem number => h (number.of_mem mem))]

/-- Items without numbers are alike only if they are equal. -/
theorem items_eq_of_alike (items others : List Value) (alike : List.Forall₂ Alike items others)
    (h : ∀ v ∈ items, ¬v.HasNumber) : items = others :=
  match items, others, alike with
  | [], [], .nil => rfl
  | v :: vs, w :: ws, .cons first rest => by
    rw [eq_of_alike v w first (h v List.mem_cons_self),
      items_eq_of_alike vs ws rest (fun u mem => h u (List.mem_cons_of_mem v mem))]

end

/-! ## Operations -/

variable {v w a b base other index place : Value}

/-- What stands for an integer is that integer, or a truth value. -/
theorem integer_or_truth {n : Int} (h : v.toInt? = some n) :
    v = .int n ∨ ∃ truth, v = .bool truth := by
  cases v with
  | int m => exact .inl (congrArg Value.int (Option.some.inj h))
  | bool truth => exact .inr ⟨truth, rfl⟩
  | _ => simp [toInt?] at h

/-- Values that are alike can be taken for the same integer, or neither can be taken for any. -/
theorem Alike.toInt_related (alike : v.Alike w) : Related Eq v.toInt w.toInt := by
  have same := alike.toInt_eq
  unfold toInt
  rw [same]
  cases w.toInt? with
  | some n => exact .values rfl
  | none => exact .problems (.clash _ _)

/-- Values that are alike are truthy alike. -/
theorem Alike.isTruthy_eq (alike : v.Alike w) : v.isTruthy = w.isTruthy := by
  have of_integer {u : Value} {n : Int} (h : u.toInt? = some n) : u.isTruthy = (n != 0) := by
    rcases integer_or_truth h with rfl | ⟨truth, rfl⟩
    · rfl
    · obtain rfl := Option.some.inj h
      cases truth <;> rfl
  cases alike with
  | integers left right => rw [of_integer left, of_integer right]
  | list items => cases items <;> rfl
  | _ => rfl

/-- Where a sum exists, the sum of values that are like its operands does, and is like it. -/
theorem Alike.adds {sum : Value} (left : v.Alike w) (right : a.Alike b) (adds : Adds v a sum) :
    ∃ total, Adds w b total ∧ sum.Alike total := by
  cases adds with
  | texts s t =>
    cases left with
    | integers number _ => simp [toInt?] at number
    | str =>
      cases right with
      | integers number _ => simp [toInt?] at number
      | str => exact ⟨_, .texts s t, .str _⟩
  | lists us vs =>
    cases left with
    | integers number _ => simp [toInt?] at number
    | list us_alike =>
      cases right with
      | integers number _ => simp [toInt?] at number
      | list vs_alike => exact ⟨_, .lists _ _, .list (List.rel_append us_alike vs_alike)⟩
  | integers first second =>
    rw [left.toInt_eq] at first
    rw [right.toInt_eq] at second
    exact ⟨_, .integers first second, alike_refl _⟩

/-- Sums of values that are alike are alike, or neither sum exists. -/
theorem Alike.add (left : v.Alike w) (right : a.Alike b) :
    Related Alike (v.add a) (w.add b) := by
  rcases add_cases v a with ⟨sum, added, adds⟩ | clash
  · obtain ⟨total, adds', alike⟩ := left.adds right adds
    rw [added, adds'.add_eq]
    exact .values alike
  · rcases add_cases w b with ⟨sum, added, adds⟩ | clash'
    · obtain ⟨total, adds', -⟩ := left.symm.adds right.symm adds
      rw [adds'.add_eq] at clash
      simp at clash
    · rw [clash, clash']
      exact .problems (.clash _ _)

/-- Items of two lists at the same index are related if the lists are, item by item. -/
theorem itemAt_related {α : Type} {R : α → α → Prop} {items others : List α}
    (h : List.Forall₂ R items others) (n : Int) :
    Related R (itemAt items n) (itemAt others n) := by
  unfold itemAt
  rw [h.length_eq]
  cases position? n others.length with
  | none => exact .problems (.same _)
  | some place =>
    simp only [Option.bind_some]
    by_cases inside : place < others.length
    · have inside' : place < items.length := by rwa [h.length_eq]
      rw [List.getElem?_eq_getElem inside, List.getElem?_eq_getElem inside']
      exact .values (h.get inside' inside)
    · rw [List.getElem?_eq_none (Nat.le_of_not_lt inside),
        List.getElem?_eq_none (by rw [h.length_eq]; exact Nat.le_of_not_lt inside)]
      exact .problems (.same _)

/-- A subscript of a text picks one of its characters. -/
theorem pick_str (s : String) (index : Value) :
    (Value.str s).pick index =
      index.toInt.bind (fun n => (itemAt s.toList n).map (fun c => .str c.toString)) := by
  unfold Value.pick
  cases index.toInt <;> rfl

/-- A subscript of a list picks one of its items. -/
theorem pick_list (items : List Value) (index : Value) :
    (Value.list items).pick index = index.toInt.bind (itemAt items) := by
  unfold Value.pick
  cases index.toInt <;> rfl

/-- Only texts and lists have subscripts. -/
theorem pick_other (texts : ∀ s, base ≠ .str s) (lists : ∀ items, base ≠ .list items)
    (index : Value) :
    base.pick index =
      index.toInt.bind (fun _ => .error (.clash (.notSubscriptable base.kind))) := by
  unfold Value.pick
  cases index.toInt with
  | error problem => rfl
  | ok n =>
    cases base with
    | str s => exact absurd rfl (texts s)
    | list items => exact absurd rfl (lists items)
    | _ => rfl

/-- What is picked from values that are alike, at indices that are alike, is alike. -/
theorem Alike.pick (bases : base.Alike other) (indices : index.Alike place) :
    Related Alike (base.pick index) (other.pick place) := by
  have numbers := indices.toInt_related
  cases bases with
  | str s =>
    rw [pick_str, pick_str]
    apply numbers.bind
    rintro n _ - rfl
    exact (Related.bind_same (fun c _ => .values (alike_refl _)))
  | list alike =>
    rw [pick_list, pick_list]
    apply numbers.bind
    rintro n _ - rfl
    exact itemAt_related alike n
  | builtin f =>
    rw [pick_other (by simp) (by simp), pick_other (by simp) (by simp)]
    exact numbers.bind (fun _ _ _ _ => .problems (.same _))
  | integers left right =>
    have other_kind {u : Value} {n : Int} (h : u.toInt? = some n) :
        (∀ s, u ≠ .str s) ∧ ∀ items, u ≠ .list items := by
      rcases integer_or_truth h with rfl | ⟨truth, rfl⟩ <;> simp
    rw [pick_other (other_kind left).1 (other_kind left).2,
      pick_other (other_kind right).1 (other_kind right).2]
    exact numbers.bind (fun _ _ _ _ => .problems (.clash _ _))

/-- Values that are alike have the same length, or neither has one. -/
theorem Alike.length (alike : v.Alike w) : Related Alike v.length w.length := by
  cases alike with
  | integers left right =>
    have no_length {u : Value} {n : Int} (h : u.toInt? = some n) :
        u.length = .error (.clash (.noLength u.kind)) := by
      rcases integer_or_truth h with rfl | ⟨truth, rfl⟩ <;> rfl
    rw [no_length left, no_length right]
    exact .problems (.clash _ _)
  | str s => exact .values (alike_refl _)
  | builtin f => exact .problems (.same _)
  | list alike =>
    rw [Value.length, Value.length, alike.length_eq]
    exact .values (alike_refl _)

/-- Codes that are alike have the same character, or neither has one. -/
theorem Alike.character (alike : v.Alike w) : Related Alike v.character w.character := by
  have numbers := alike.toInt_related
  unfold Value.character
  generalize v.toInt = x, w.toInt = y at numbers ⊢
  cases numbers with
  | problems alike => exact .problems alike
  | values same =>
    subst same
    dsimp only
    split
    · exact .values (alike_refl _)
    · exact .problems (.same _)

end Value

/-- Calls of values that are alike, unless a number is printed. -/
theorem Builtin.call_alike (f : Builtin) {args others : List Value}
    (alike : List.Forall₂ Value.Alike args others)
    (quiet : ∀ v, f = .str → args = [v] → ¬v.HasNumber) :
    Related Value.Alike (f.call args) (f.call others) := by
  rcases alike with _ | ⟨first, rest⟩
  · -- without arguments both calls are the same
    exact Related.refl Value.alike_refl _
  · rcases rest with _ | ⟨second, more⟩
    · cases f with
      | len => exact first.length
      | chr => exact first.character
      | bool =>
        rw [Builtin.call, Builtin.call, first.isTruthy_eq]
        exact .values (Value.alike_refl _)
      | str =>
        obtain rfl := Value.eq_of_alike _ _ first (quiet _ rfl rfl)
        exact .values (.str _)
      | _ => exact .problems (.same _)
    · -- with two or more arguments only their number counts
      have length := more.length_eq
      cases f <;> simp only [Builtin.call, List.length_cons, length] <;> exact .problems (.same _)

end Lipogram
