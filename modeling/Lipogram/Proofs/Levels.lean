import Lipogram.Evaluation
import Lipogram.Expr.Level
import Lipogram.Expr.Meaning
import Lipogram.Proofs.Outcomes

/-!
# Evaluation with levels

The value of a tree when no expression in it may stand too deep. The level is looked at where an
expression begins, so a problem further left wins over a nesting that is too deep, and the other
way round. Evaluation with levels has a value exactly where evaluation without them has one and the
tree is not too deep.
-/

set_option autoImplicit false

namespace Lipogram

/-- An expression may begin at a level that is not too deep. -/
def enter (level : Nat) : Except Problem Unit :=
  if Reader.deepestLevel < level then .error (.malformed 0 .nestedTooDeeply) else .ok ()

mutual

/-- The value of an expression at a level. -/
def Expr.valueAt (level : Nat) : Expr → Except Problem Value
  | .sum first rest => (first.valueAt level).bind (Term.addAllAt level rest)

/-- The value of a term of an expression at a level. -/
def Term.valueAt (level : Nat) : Term → Except Problem Value
  | .name n => n.builtin.map .builtin
  | .call n args => n.builtin.bind (fun f => (Expr.valuesAt (level + 1) args).bind f.call)
  | .list items => (Expr.valuesAt (level + 1) items).map .list
  | .pick base index =>
    (base.valueAt level).bind (fun v =>
      (enter (level + 1)).bind (fun _ => (index.valueAt (level + 1)).bind v.pick))

/-- A sum at a level with the values of more terms added to it. -/
def Term.addAllAt (level : Nat) : List Term → Value → Except Problem Value
  | [], sum => .ok sum
  | t :: ts, sum => (t.valueAt level).bind (fun v => (sum.add v).bind (Term.addAllAt level ts))

/-- The values of expressions that stand at a level. -/
def Expr.valuesAt (level : Nat) : List Expr → Except Problem (List Value)
  | [] => .ok []
  | e :: es =>
    (enter level).bind (fun _ =>
      (e.valueAt level).bind (fun v => (Expr.valuesAt level es).map (v :: ·)))

end

/-- Only a level that is not too deep can be entered. -/
theorem enter_eq_ok {level : Nat} {u : Unit} (h : enter level = .ok u) :
    level ≤ Reader.deepestLevel := by
  simp only [enter] at h
  split at h
  · simp at h
  · omega

/-- A level that is not too deep can be entered. -/
theorem enter_of_le {level : Nat} (h : level ≤ Reader.deepestLevel) : enter level = .ok () := by
  rw [enter, if_neg (by omega)]

mutual

/-- In an expression that is not too deep, levels do not count. -/
theorem Expr.valueAt_of_depth (e : Expr) {level : Nat}
    (h : level + e.depth ≤ Reader.deepestLevel) : e.valueAt level = e.value :=
  match e with
  | .sum first rest => by
    simp only [Expr.depth] at h
    have of_rest : Term.addAllAt level rest = Term.addAll rest :=
      funext (fun sum => Term.addAllAt_of_depth rest sum (by omega))
    rw [Expr.valueAt, Expr.value, Term.valueAt_of_depth first (by omega), of_rest]

/-- In a term that is not too deep, levels do not count. -/
theorem Term.valueAt_of_depth (t : Term) {level : Nat}
    (h : level + t.depth ≤ Reader.deepestLevel) : t.valueAt level = t.value :=
  match t with
  | .name n => rfl
  | .call n args => by
    simp only [Term.depth] at h
    rw [Term.valueAt, Term.value, Expr.valuesAt_of_depth args h]
  | .list items => by
    simp only [Term.depth] at h
    rw [Term.valueAt, Term.value, Expr.valuesAt_of_depth items h]
  | .pick base index => by
    simp only [Term.depth] at h
    rw [Term.valueAt, Term.value, Term.valueAt_of_depth base (by omega),
      enter_of_le (by omega), Expr.valueAt_of_depth index (by omega)]
    rfl

/-- So it is where terms are added that are not too deep. -/
theorem Term.addAllAt_of_depth (ts : List Term) (sum : Value) {level : Nat}
    (h : level + Term.depths ts ≤ Reader.deepestLevel) :
    Term.addAllAt level ts sum = Term.addAll ts sum :=
  match ts with
  | [] => rfl
  | t :: ts => by
    simp only [Term.depths] at h
    have of_rest : Term.addAllAt level ts = Term.addAll ts :=
      funext (fun sum => Term.addAllAt_of_depth ts sum (by omega))
    rw [Term.addAllAt, Term.addAll, Term.valueAt_of_depth t (by omega), of_rest]

/-- So it is with expressions inside a bracket that are not too deep. -/
theorem Expr.valuesAt_of_depth (es : List Expr) {level : Nat}
    (h : level + Expr.depthInside es ≤ Reader.deepestLevel) :
    Expr.valuesAt (level + 1) es = Expr.values es :=
  match es with
  | [] => rfl
  | e :: es => by
    simp only [Expr.depthInside] at h
    rw [Expr.valuesAt, Expr.values, enter_of_le (by omega),
      Expr.valueAt_of_depth e (by omega), Expr.valuesAt_of_depth es (by omega)]
    rfl

end

mutual

/-- An expression that has a value at a level is not too deep. -/
theorem Expr.depth_of_valueAt (e : Expr) {level : Nat} {v : Value}
    (h : e.valueAt level = .ok v) (start : level ≤ Reader.deepestLevel) :
    level + e.depth ≤ Reader.deepestLevel :=
  match e with
  | .sum first rest => by
    obtain ⟨w, of_first, of_rest⟩ := bind_eq_ok.mp h
    have := Term.depth_of_valueAt first of_first start
    have := Term.depths_of_addAllAt rest of_rest start
    simp only [Expr.depth]
    omega

/-- A term that has a value at a level is not too deep there. -/
theorem Term.depth_of_valueAt (t : Term) {level : Nat} {v : Value}
    (h : t.valueAt level = .ok v) (start : level ≤ Reader.deepestLevel) :
    level + t.depth ≤ Reader.deepestLevel :=
  match t with
  | .name n => start
  | .call n args => by
    obtain ⟨f, -, called⟩ := bind_eq_ok.mp h
    obtain ⟨vs, of_args, -⟩ := bind_eq_ok.mp called
    exact Expr.depth_of_valuesAt args of_args start
  | .list items => by
    obtain ⟨vs, of_items, -⟩ := map_eq_ok.mp h
    exact Expr.depth_of_valuesAt items of_items start
  | .pick base index => by
    obtain ⟨w, of_base, picked⟩ := bind_eq_ok.mp h
    obtain ⟨u, entered, picked⟩ := bind_eq_ok.mp picked
    obtain ⟨i, of_index, -⟩ := bind_eq_ok.mp picked
    have := Term.depth_of_valueAt base of_base start
    have := Expr.depth_of_valueAt index of_index (enter_eq_ok entered)
    simp only [Term.depth]
    omega

/-- Terms that can be added at a level are not too deep there. -/
theorem Term.depths_of_addAllAt (ts : List Term) {level : Nat} {sum v : Value}
    (h : Term.addAllAt level ts sum = .ok v) (start : level ≤ Reader.deepestLevel) :
    level + Term.depths ts ≤ Reader.deepestLevel :=
  match ts with
  | [] => start
  | t :: ts => by
    obtain ⟨w, of_term, added⟩ := bind_eq_ok.mp h
    obtain ⟨next, -, of_rest⟩ := bind_eq_ok.mp added
    have := Term.depth_of_valueAt t of_term start
    have := Term.depths_of_addAllAt ts of_rest start
    simp only [Term.depths]
    omega

/-- Expressions that have values inside a bracket are not too deep there. -/
theorem Expr.depth_of_valuesAt (es : List Expr) {level : Nat} {vs : List Value}
    (h : Expr.valuesAt (level + 1) es = .ok vs) (start : level ≤ Reader.deepestLevel) :
    level + Expr.depthInside es ≤ Reader.deepestLevel :=
  match es with
  | [] => start
  | e :: es => by
    obtain ⟨u, entered, valued⟩ := bind_eq_ok.mp h
    obtain ⟨v, of_first, mapped⟩ := bind_eq_ok.mp valued
    obtain ⟨ws, of_rest, -⟩ := map_eq_ok.mp mapped
    have := Expr.depth_of_valueAt e of_first (enter_eq_ok entered)
    have := Expr.depth_of_valuesAt es of_rest start
    simp only [Expr.depthInside]
    omega

end

end Lipogram
