import Lipogram.Proofs.Displacement
import Lipogram.Proofs.Nesting
import Lipogram.Proofs.Resemblance

/-!
# Truth values for the numbers zero and one

The lengths of the empty list and of the list of one empty list may be replaced in a source by the
truths of these lists, in any number of places: the outcome stays alike, as long as nothing is printed
that holds a number (`evaluate_respelled`). Only the place of a malformation moves, by one byte for
each exchanged name to its left, so it does not stay (`evaluate_respelled_moves`).
-/

set_option autoImplicit false

namespace Lipogram

/-! ## Calls -/

/-- A call of a built-in with the values of its arguments. -/
structure Call where
  f : Builtin
  args : List Value

/-- What is done behind a part of an evaluation, if the part has a value. -/
def behind {α β : Type} (x : Except Problem α) (next : α → List β) : List β :=
  match x with
  | .ok a => next a
  | .error _ => []

mutual

/-- The calls that are made in the evaluation of an expression at a level, in their order, up to the
first problem. -/
def Expr.calls (level : Nat) : Expr → List Call
  | .sum first rest => first.calls level ++ behind (first.valueAt level) (Term.moreCalls level rest)

/-- The calls that are made in the evaluation of a term. -/
def Term.calls (level : Nat) : Term → List Call
  | .name _ => []
  | .call n args =>
    behind n.builtin (fun f => Expr.itemCalls (level + 1) args ++
      behind (Expr.valuesAt (level + 1) args) (fun vs => [⟨f, vs⟩]))
  | .list items => Expr.itemCalls (level + 1) items
  | .pick base index =>
    base.calls level ++ behind (base.valueAt level) (fun _ =>
      behind (enter (level + 1)) (fun _ => index.calls (level + 1)))

/-- The calls that are made while terms are added to a sum. -/
def Term.moreCalls (level : Nat) : List Term → Value → List Call
  | [], _ => []
  | t :: ts, sum =>
    t.calls level ++ behind (t.valueAt level) (fun v =>
      behind (sum.add v) (Term.moreCalls level ts))

/-- The calls that are made in the evaluation of expressions, one after the other. -/
def Expr.itemCalls (level : Nat) : List Expr → List Call
  | [] => []
  | e :: es =>
    behind (enter level) (fun _ =>
      e.calls level ++ behind (e.valueAt level) (fun _ => Expr.itemCalls level es))

end

/-- Where nothing is done behind a part, it does not count how the part ends. -/
theorem behind_nothing {α β : Type} (x : Except Problem α) :
    behind x (fun _ => ([] : List β)) = [] := by
  cases x <;> rfl

/-- A term makes the same calls on its own as in a sum. -/
theorem Term.toExpr_calls (t : Term) (level : Nat) : t.toExpr.calls level = t.calls level := by
  have no_more : moreCalls level [] = fun _ => [] := rfl
  rw [toExpr, Expr.calls, no_more, behind_nothing, List.append_nil]

/-- Among some calls, no value with a number in it is printed. -/
def PrintsNoNumber (calls : List Call) : Prop :=
  ∀ v, ⟨.str, [v]⟩ ∈ calls → ¬v.HasNumber

namespace PrintsNoNumber

variable {calls more : List Call}

/-- The first of two stretches prints no number if both print none. -/
theorem left (quiet : PrintsNoNumber (calls ++ more)) : PrintsNoNumber calls :=
  fun v mem => quiet v (List.mem_append_left more mem)

/-- Neither does the second. -/
theorem right (quiet : PrintsNoNumber (calls ++ more)) : PrintsNoNumber more :=
  fun v mem => quiet v (List.mem_append_right calls mem)

/-- What is done behind a part that has a value prints no number either. -/
theorem behind {α : Type} {x : Except Problem α} {next : α → List Call} {a : α}
    (quiet : PrintsNoNumber (behind x next)) (h : x = .ok a) : PrintsNoNumber (next a) := by
  rw [h] at quiet
  exact quiet

end PrintsNoNumber

/-! ## Respelling -/

mutual

/-- An expression with some lengths of empty lists, and of lists of one empty list, respelled as
truths. -/
inductive Expr.Respelled : Expr → Expr → Prop where
  | sum {first first' : Term} {rest rest' : List Term} (h : first.Respelled first')
    (more : Term.AllRespelled rest rest') : Expr.Respelled (.sum first rest) (.sum first' rest')

/-- A term that is respelled itself, or has respelled parts. -/
inductive Term.Respelled : Term → Term → Prop where
  | truth {n : Nat} (h : n ≤ 1) :
    Term.Respelled (.call Builtin.len.toName [Numeral.tally n])
      (.call Builtin.bool.toName [Numeral.tally n])
  | name (n : Name) : Term.Respelled (.name n) (.name n)
  | call (n : Name) {args args' : List Expr} (h : Expr.AllRespelled args args') :
    Term.Respelled (.call n args) (.call n args')
  | list {items items' : List Expr} (h : Expr.AllRespelled items items') :
    Term.Respelled (.list items) (.list items')
  | pick {base base' : Term} {index index' : Expr} (h : base.Respelled base')
    (inside : index.Respelled index') : Term.Respelled (.pick base index) (.pick base' index')

/-- Terms that are respelled one by one. -/
inductive Term.AllRespelled : List Term → List Term → Prop where
  | nil : Term.AllRespelled [] []
  | cons {t t' : Term} {ts ts' : List Term} (h : t.Respelled t')
    (more : Term.AllRespelled ts ts') : Term.AllRespelled (t :: ts) (t' :: ts')

/-- Expressions that are respelled one by one. -/
inductive Expr.AllRespelled : List Expr → List Expr → Prop where
  | nil : Expr.AllRespelled [] []
  | cons {e e' : Expr} {es es' : List Expr} (h : e.Respelled e')
    (more : Expr.AllRespelled es es') : Expr.AllRespelled (e :: es) (e' :: es')

end

mutual

/-- Nothing has to be respelled. -/
theorem Expr.respelled_refl (e : Expr) : e.Respelled e :=
  match e with
  | .sum first rest => .sum (Term.respelled_refl first) (Term.allRespelled_refl rest)

/-- Nothing has to be respelled in a term. -/
theorem Term.respelled_refl (t : Term) : t.Respelled t :=
  match t with
  | .name n => .name n
  | .call n args => .call n (Expr.allRespelled_refl args)
  | .list items => .list (Expr.allRespelled_refl items)
  | .pick base index => .pick (Term.respelled_refl base) (Expr.respelled_refl index)

/-- Nothing has to be respelled in terms. -/
theorem Term.allRespelled_refl (ts : List Term) : Term.AllRespelled ts ts :=
  match ts with
  | [] => .nil
  | t :: ts => .cons (Term.respelled_refl t) (Term.allRespelled_refl ts)

/-- Nothing has to be respelled in expressions. -/
theorem Expr.allRespelled_refl (es : List Expr) : Expr.AllRespelled es es :=
  match es with
  | [] => .nil
  | e :: es => .cons (Expr.respelled_refl e) (Expr.allRespelled_refl es)

end

/-- Zero and one are alike as lengths and as truths. -/
theorem tally_alike {n : Nat} (h : n ≤ 1) :
    Related Value.Alike (Builtin.len.call [.list (List.replicate n (.list []))])
      (Builtin.bool.call [.list (List.replicate n (.list []))]) := by
  refine .values (.integers (n := n) ?_ ?_)
  · simp [Value.toInt?]
  · obtain rfl | rfl : n = 0 ∨ n = 1 := by omega
    · rfl
    · rfl

/-- A tally has no other value at a level than without levels. -/
theorem valuesAt_tally {n level : Nat} {vs : List Value}
    (h : Expr.valuesAt level [Numeral.tally n] = .ok vs) :
    vs = [.list (List.replicate n (.list []))] := by
  have free := (Expr.valuesAt_stop [Numeral.tally n] level).eq_ok h
  rw [Expr.values, Numeral.tally_value] at free
  exact (Except.ok.inj free).symm

mutual

/-- A respelled expression has an outcome that is alike. -/
theorem Expr.valueAt_respelled {e e' : Expr} (h : e.Respelled e') {level : Nat}
    (quiet : PrintsNoNumber (e.calls level)) :
    Related Value.Alike (e.valueAt level) (e'.valueAt level) :=
  match h with
  | .sum first more => by
    apply (Term.valueAt_respelled first quiet.left).bind
    intro sum sum' value alike
    exact Term.addAllAt_respelled more alike (quiet.right.behind value)

/-- A respelled term has an outcome that is alike. -/
theorem Term.valueAt_respelled {t t' : Term} (h : t.Respelled t') {level : Nat}
    (quiet : PrintsNoNumber (t.calls level)) :
    Related Value.Alike (t.valueAt level) (t'.valueAt level) :=
  match h with
  | .truth h => by
    simp only [Term.valueAt, Builtin.toName_builtin, ok_bind]
    apply Related.bind_same
    intro vs values
    rw [valuesAt_tally values]
    exact tally_alike h
  | .name n => Related.refl Value.alike_refl _
  | .call n args => by
    apply Related.bind_same
    intro f known
    have inside := quiet.behind known
    apply (Expr.valuesAt_respelled args inside.left).bind
    intro vs vs' values alike
    refine f.call_alike alike (fun v print single => ?_)
    subst print single
    exact inside.right.behind values v (List.mem_singleton_self _)
  | .list items => (Expr.valuesAt_respelled items quiet).map (fun _ _ alike => .list alike)
  | .pick base index => by
    apply (Term.valueAt_respelled base quiet.left).bind
    intro v v' value alike
    apply Related.bind_same
    intro u entered
    apply (Expr.valueAt_respelled index ((quiet.right.behind value).behind entered)).bind
    intro i i' _ alike_index
    exact alike.pick alike_index

/-- So it is where respelled terms are added to sums that are alike. -/
theorem Term.addAllAt_respelled {ts ts' : List Term} (h : Term.AllRespelled ts ts')
    {sum sum' : Value} (alike : sum.Alike sum') {level : Nat}
    (quiet : PrintsNoNumber (Term.moreCalls level ts sum)) :
    Related Value.Alike (Term.addAllAt level ts sum) (Term.addAllAt level ts' sum') :=
  match h with
  | .nil => .values alike
  | .cons first more => by
    apply (Term.valueAt_respelled first quiet.left).bind
    intro v v' value alike_term
    apply (alike.add alike_term).bind
    intro next next' added alike_next
    exact Term.addAllAt_respelled more alike_next ((quiet.right.behind value).behind added)

/-- Respelled expressions have values that are alike, one by one. -/
theorem Expr.valuesAt_respelled {es es' : List Expr} (h : Expr.AllRespelled es es') {level : Nat}
    (quiet : PrintsNoNumber (Expr.itemCalls level es)) :
    Related (List.Forall₂ Value.Alike) (Expr.valuesAt level es) (Expr.valuesAt level es') :=
  match h with
  | .nil => .values .nil
  | .cons first more => by
    apply Related.bind_same
    intro u entered
    have inside := quiet.behind entered
    apply (Expr.valueAt_respelled first inside.left).bind
    intro v v' value alike
    apply (Expr.valuesAt_respelled more (inside.right.behind value)).map
    intro vs vs' alike_rest
    exact .cons alike alike_rest

end

/-! ## Places -/

mutual

/-- Respelling exchanges single lexemes. -/
theorem Expr.Respelled.lexemes {e e' : Expr} (h : e.Respelled e') :
    List.Forall₂ Lexeme.Respelled e.lexemes e'.lexemes :=
  match h with
  | .sum first more =>
    List.rel_append (Term.Respelled.lexemes first) (Term.allRespelled_lexemes more)

/-- The lexemes of a respelled term. -/
theorem Term.Respelled.lexemes {t t' : Term} (h : t.Respelled t') :
    List.Forall₂ Lexeme.Respelled t.lexemes t'.lexemes :=
  match h with
  | .truth _ => .cons .truth (Lexeme.respelled_refl _)
  | .name n => Lexeme.respelled_refl _
  | .call n args =>
    .cons (.same _) (.cons (.same _)
      (List.rel_append (Expr.allRespelled_lexemes args) (Lexeme.respelled_refl _)))
  | .list items =>
    .cons (.same _) (List.rel_append (Expr.allRespelled_lexemes items) (Lexeme.respelled_refl _))
  | .pick base index =>
    List.rel_append (Term.Respelled.lexemes base)
      (.cons (.same _)
        (List.rel_append (Expr.Respelled.lexemes index) (Lexeme.respelled_refl _)))

/-- The lexemes of respelled terms behind the first one of a sum. -/
theorem Term.allRespelled_lexemes {ts ts' : List Term} (h : Term.AllRespelled ts ts') :
    List.Forall₂ Lexeme.Respelled (Term.moreLexemes ts) (Term.moreLexemes ts') :=
  match h with
  | .nil => .nil
  | .cons first more =>
    .cons (.same _)
      (List.rel_append (Term.Respelled.lexemes first) (Term.allRespelled_lexemes more))

/-- The lexemes of respelled expressions in a bracket. -/
theorem Expr.allRespelled_lexemes {es es' : List Expr} (h : Expr.AllRespelled es es') :
    List.Forall₂ Lexeme.Respelled (Expr.itemLexemes es) (Expr.itemLexemes es') :=
  match h with
  | .nil => .nil
  | .cons first .nil => Expr.Respelled.lexemes first
  | .cons first (.cons second more) =>
    List.rel_append (Expr.Respelled.lexemes first)
      (.cons (.same _) (Expr.allRespelled_lexemes (.cons second more)))

end

/-- Where a respelled source is nested too deep, the place has moved by the number of respelled
names to its left. -/
theorem tooDeep_place_respelled {e e' : Expr} (h : e.Respelled e') {offset offset' : Nat}
    (deep : evaluate e.text = .error (.malformed offset .nestedTooDeeply))
    (deep' : evaluate e'.text = .error (.malformed offset' .nestedTooDeeply)) :
    offset' = offset + Lexeme.changedBefore e.lexemes e'.lexemes offset := by
  obtain ⟨place, found, rfl⟩ := Reader.tooDeep_of_read deep
  obtain ⟨place', found', rfl⟩ := Reader.tooDeep_of_read deep'
  rw [← Expr.spelling_lexemes] at found found'
  have moved := Reader.tooDeep_respelled h.lexemes found
  have same := Option.some.inj (found'.symm.trans moved)
  simpa using same

/-! ## Sources -/

/-- Truth values may stand for the numbers zero and one. A source in which lengths of the empty list
and of the list of one empty list are respelled as truths has a value like the one that it had, or
fails with a problem like the one it failed with, as long as no value is printed that is or holds a
number. The only malformation is that the nesting is too deep, and its place moves by the number of
respelled names to its left. -/
theorem evaluate_respelled {e e' : Expr} (h : e.Respelled e')
    (quiet : ∀ v, ⟨.str, [v]⟩ ∈ e.calls 0 → ¬v.HasNumber) :
    (∃ v v', evaluate e.text = .ok v ∧ evaluate e'.text = .ok v' ∧ v.Alike v') ∨
      (∃ problem problem', evaluate e.text = .error problem ∧
        evaluate e'.text = .error problem' ∧ problem.Alike problem' ∧
        ∀ offset fault, problem ≠ .malformed offset fault) ∨
      ∃ offset, evaluate e.text = .error (.malformed offset .nestedTooDeeply) ∧
        evaluate e'.text = .error (.malformed
          (offset + Lexeme.changedBefore e.lexemes e'.lexemes offset) .nestedTooDeeply) := by
  have related := Expr.valueAt_respelled h quiet
  have together := related.malformed_iff 0 .nestedTooDeeply
  rcases evaluate_levels e with ⟨same, semantic⟩ | ⟨limited, offset, deep⟩
  · rcases evaluate_levels e' with ⟨same', -⟩ | ⟨limited', -⟩
    · rw [← same, ← same'] at related
      rw [← same] at semantic
      generalize evaluate e.text = x, evaluate e'.text = y at related semantic
      cases related with
      | values alike => exact .inl ⟨_, _, rfl, rfl, alike⟩
      | problems alike =>
        have met := semantic.of_eq_error rfl
        exact .inr (.inl ⟨_, _, rfl, rfl, alike, met.ne_malformed⟩)
    · exact absurd (together.mpr limited') (semantic.ne_malformed 0 _)
  · rcases evaluate_levels e' with ⟨-, semantic'⟩ | ⟨-, offset', deep'⟩
    · exact absurd (together.mp limited) (semantic'.ne_malformed 0 _)
    · have moved := tooDeep_place_respelled h deep deep'
      exact .inr (.inr ⟨offset, deep, moved ▸ deep'⟩)

/-- The term that picks the second character of a printed built-in, with the number one as it is
counted. -/
def pickSecond : Term :=
  .pick (Glossary.printed .len) (Term.call Builtin.len.toName [Numeral.tally 1]).toExpr

/-- A letter is picked with a number, and with the truth value that stands for it. -/
theorem evaluate_respelled_letter :
    pickSecond.toExpr.Respelled (Term.pick (Glossary.printed .len) (Numeral.expr 1)).toExpr ∧
      (∀ v, ⟨.str, [v]⟩ ∈ pickSecond.toExpr.calls 0 → ¬v.HasNumber) ∧
      evaluate pickSecond.toExpr.text = .ok (.str "b") ∧
      ∃ v, evaluate (Term.pick (Glossary.printed .len) (Numeral.expr 1)).toExpr.text = .ok v ∧
        (Value.str "b").Alike v := by
  have respelled : pickSecond.toExpr.Respelled
      (Term.pick (Glossary.printed .len) (Numeral.expr 1)).toExpr :=
    .sum (.pick (Term.respelled_refl _) (.sum (.truth (Nat.le_refl 1)) .nil)) .nil
  have quiet : ∀ v, ⟨.str, [v]⟩ ∈ pickSecond.toExpr.calls 0 → ¬v.HasNumber := by
    intro v mem
    have calls : pickSecond.calls 0 = [⟨.str, [.builtin .len]⟩, ⟨.len, [.list [.list []]]⟩] := by
      rfl
    rw [Term.toExpr_calls, calls] at mem
    obtain rfl : v = .builtin .len := by simpa using mem
    rintro ⟨w, n, contains, number⟩
    cases contains
    simp [Value.toInt?] at number
  have counted : evaluate pickSecond.toExpr.text = .ok (.str "b") := by
    have index : (Term.call Builtin.len.toName [Numeral.tally 1]).toExpr.value = .ok (.int 1) := by
      rfl
    rw [evaluate_written _ (by decide), Term.toExpr_value, pickSecond, Term.value,
      Glossary.printed_value, ok_bind, index, ok_bind, pick_of_nat (n := 1) _ rfl]
    rfl
  refine ⟨respelled, quiet, counted, ?_⟩
  rcases evaluate_respelled respelled quiet with
    ⟨v, v', value, value', alike⟩ | ⟨_, _, failed, -⟩ | ⟨_, failed, -⟩
  · obtain rfl := Except.ok.inj (counted.symm.trans value)
    exact ⟨v', value', alike⟩
  · simp [counted] at failed
  · simp [counted] at failed

/-- A sum of the number one, as the length or the truth of a list, and of a term. -/
def oneAnd (f : Builtin) (t : Term) : Expr :=
  .sum (.call f.toName [Numeral.tally 1]) [t]

/-- A sum of the number one and a term, as it is written. -/
theorem oneAnd_text (f : Builtin) (t : Term) :
    (oneAnd f t).text = f.name ++ "([[]])+" ++ t.text := by
  apply String.toList_injective
  simp [oneAnd, Expr.text, Term.text, text_toName, Numeral.tally, Numeral.nothing,
    Term.toExpr_text, String.intercalate_cons_cons]

/-- The number one may be written as a truth in front of any term. -/
theorem oneAnd_respelled (t : Term) : (oneAnd .len t).Respelled (oneAnd .bool t) :=
  .sum (.truth (Nat.le_refl 1)) (.cons (Term.respelled_refl t) .nil)

/-- In front of a term that makes no call, the number one is the only call. -/
theorem oneAnd_calls {t : Term} (h : t.calls 0 = []) :
    (oneAnd .len t).calls 0 = [⟨.len, [.list [.list []]]⟩] := by
  have one : (Term.call Builtin.len.toName [Numeral.tally 1]).calls 0 =
      [⟨.len, [.list [.list []]]⟩] := by rfl
  have no_more (v : Value) : Term.moreCalls 0 [t] v = [] := by
    simp only [Term.moreCalls, h, behind_nothing, List.append_nil]
  rw [oneAnd, Expr.calls, one, funext no_more, behind_nothing, List.append_nil]

/-- Nested brackets make no call. -/
theorem Expr.nest_calls (n level : Nat) : (nest n).calls level = [] := by
  induction n generalizing level with
  | zero => rfl
  | succ n ih =>
    rw [nest, Term.toExpr_calls, Term.calls]
    simp only [itemCalls, ih, behind_nothing, List.append_nil]

/-- Places of malformations do not stay when a source is respelled: names that stand in front of
them change their lengths. -/
theorem evaluate_respelled_moves :
    ¬∀ e e' : Expr, e.Respelled e' → (∀ v, ⟨.str, [v]⟩ ∈ e.calls 0 → ¬v.HasNumber) →
      (∃ v v', evaluate e.text = .ok v ∧ evaluate e'.text = .ok v' ∧ v.Alike v') ∨
        ∃ problem problem', evaluate e.text = .error problem ∧
          evaluate e'.text = .error problem' ∧
          (problem = problem' ∨
            ∃ cause cause', problem = .clash cause ∧ problem' = .clash cause') := by
  intro same
  have lists : (Term.list [.nest 256]).text = (Expr.nest 257).text := (Expr.nest_succ_text 256).symm
  have quiet : ∀ v, ⟨.str, [v]⟩ ∈ (oneAnd .len (.list [.nest 256])).calls 0 → ¬v.HasNumber := by
    have no_call : (Term.list [.nest 256]).calls 0 = [] := by
      rw [← Term.toExpr_calls]
      exact Expr.nest_calls 257 0
    intro v mem
    simp [oneAnd_calls no_call] at mem
  have length : evaluate (oneAnd .len (.list [.nest 256])).text =
      .error (.malformed 267 .nestedTooDeeply) := by
    have before : Reader.read 0 (.start 0 0) (Builtin.len.name ++ "([[]])+").toList =
        .reading ⟨10, [], some (.int 1), .operand⟩ := by rfl
    rw [oneAnd_text, lists]
    exact evaluate_plus_nest before (by decide)
  have truth : evaluate (oneAnd .bool (.list [.nest 256])).text =
      .error (.malformed 268 .nestedTooDeeply) := by
    have before : Reader.read 0 (.start 0 0) (Builtin.bool.name ++ "([[]])+").toList =
        .reading ⟨11, [], some (.bool true), .operand⟩ := by rfl
    rw [oneAnd_text, lists]
    exact evaluate_plus_nest before (by decide)
  rcases same _ _ (oneAnd_respelled _) quiet with
    ⟨v, v', value, -⟩ | ⟨problem, problem', failed, failed', alike⟩
  · simp [length] at value
  · obtain rfl := Except.error.inj (length.symm.trans failed)
    obtain rfl := Except.error.inj (truth.symm.trans failed')
    simp at alike

end Lipogram
