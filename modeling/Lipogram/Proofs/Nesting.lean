import Lipogram.Proofs.Parts

/-!
# The nesting limit

The limit decides only whether a source is evaluated to its end. Evaluation with levels has the
outcome of evaluation without them or finds the nesting too deep (`Expr.valueAt_stops`), so a tree
that has a value without the limit has it with the limit exactly if it is not too deep
(`nesting_limit`). How the levels come about, and what stands beside them, does not count.
-/

set_option autoImplicit false

namespace Lipogram

/-! ## Evaluation that stops at the limit -/

/-- The outcome of an evaluation with levels: the nesting is too deep, or the levels do not
count. -/
inductive Stops {α : Type} : Except Problem α → Except Problem α → Prop where
  | tooDeep (free : Except Problem α) : Stops (.error (.malformed 0 .nestedTooDeeply)) free
  | same (free : Except Problem α) : Stops free free

section

variable {α β : Type} {limited free : Except Problem α}

/-- A chain of evaluations stops where its first link does, or where the next one does. -/
theorem Stops.bind {f g : α → Except Problem β} (stops : Stops limited free)
    (next : ∀ a, Stops (f a) (g a)) : Stops (limited.bind f) (free.bind g) := by
  cases stops with
  | tooDeep => exact .tooDeep _
  | same =>
    cases limited with
    | ok a => exact next a
    | error problem => exact .same _

/-- Mapping neither stops nor goes on. -/
theorem Stops.map {f : α → β} (stops : Stops limited free) :
    Stops (limited.map f) (free.map f) := by
  rw [map_eq_bind, map_eq_bind]
  exact stops.bind (fun _ => .same _)

/-- Where evaluation does not stop, levels do not count. -/
theorem Stops.eq_ok {a : α} (stops : Stops limited free) (h : limited = .ok a) : free = .ok a := by
  cases stops with
  | tooDeep => simp at h
  | same => exact h

/-- Entering a level can only stop. -/
theorem Stops.enter (level : Nat) (stops : Stops limited free) :
    Stops ((enter level).bind (fun _ => limited)) free := by
  unfold Lipogram.enter
  split
  · exact .tooDeep free
  · exact stops

end

mutual

/-- Levels change the outcome of an expression only where they stop its evaluation. -/
theorem Expr.valueAt_stops (e : Expr) (level : Nat) : Stops (e.valueAt level) e.value :=
  match e with
  | .sum first rest => by
    apply (Term.valueAt_stops first level).bind
    intro sum
    exact Term.addAllAt_stops rest sum level

/-- Levels change the outcome of a term only where they stop its evaluation. -/
theorem Term.valueAt_stops (t : Term) (level : Nat) : Stops (t.valueAt level) t.value :=
  match t with
  | .name n => .same _
  | .call n args => by
    apply (Stops.same n.builtin).bind
    intro f
    exact (Expr.valuesAt_stop args (level + 1)).bind (fun _ => .same _)
  | .list items => (Expr.valuesAt_stop items (level + 1)).map
  | .pick base index => by
    apply (Term.valueAt_stops base level).bind
    intro v
    apply Stops.enter
    exact (Expr.valueAt_stops index (level + 1)).bind (fun _ => .same _)

/-- So it is where terms are added to a sum. -/
theorem Term.addAllAt_stops (ts : List Term) (sum : Value) (level : Nat) :
    Stops (Term.addAllAt level ts sum) (Term.addAll ts sum) :=
  match ts with
  | [] => .same _
  | t :: ts => by
    apply (Term.valueAt_stops t level).bind
    intro v
    apply (Stops.same (sum.add v)).bind
    intro next
    exact Term.addAllAt_stops ts next level

/-- So it is with expressions inside a bracket. -/
theorem Expr.valuesAt_stop (es : List Expr) (level : Nat) :
    Stops (Expr.valuesAt level es) (Expr.values es) :=
  match es with
  | [] => .same _
  | e :: es => by
    apply Stops.enter
    apply (Expr.valueAt_stops e level).bind
    intro v
    exact (Expr.valuesAt_stop es level).map

end

/-! ## Sources -/

/-- A written tree has the outcome of the tree with its levels, which is no malformation, or both
are found to be too deep. -/
theorem evaluate_levels (e : Expr) :
    (evaluate e.text = e.valueAt 0 ∧ WellFormed (e.valueAt 0)) ∨
      (e.valueAt 0 = .error (.malformed 0 .nestedTooDeeply) ∧
        ∃ offset, evaluate e.text = .error (.malformed offset .nestedTooDeeply)) := by
  have agreement := placeless_evaluate (Lexeme.ofSource_text e).symm
  have stops := e.valueAt_stops 0
  have semantic := e.value_semantic
  generalize e.valueAt 0 = limited, e.value = free at agreement stops semantic ⊢
  cases stops with
  | tooDeep => exact .inr ⟨rfl, placeless_eq_malformed.mp agreement⟩
  | same => exact .inl ⟨semantic.eq_of_placeless agreement, semantic⟩

/-- A tree that has a value, but is too deep, is too deep to be evaluated. -/
theorem evaluate_tooDeep {e : Expr} {v : Value} (value : e.value = .ok v)
    (deep : Reader.deepestLevel < e.depth) :
    ∃ offset, evaluate e.text = .error (.malformed offset .nestedTooDeeply) := by
  have outcome := placeless_evaluate (Lexeme.ofSource_text e).symm
  generalize limited : e.valueAt 0 = x at outcome
  have stops : Stops x (.ok v) := by
    rw [← limited, ← value]
    exact e.valueAt_stops 0
  cases stops with
  | same =>
    have shallow := e.depth_of_valueAt limited (Nat.zero_le _)
    omega
  | tooDeep => exact placeless_eq_malformed.mp outcome

/-- A tree that has a value without a limit is evaluated to this value if none of its expressions
lies deeper than the deepest level, and is too deep otherwise. The one tree that an encoding is the
text of is never deep. -/
theorem nesting_limit :
    (∀ (e : Expr) (v : Value), e.value = .ok v →
      (e.depth ≤ 256 → evaluate e.text = .ok v) ∧
      (256 < e.depth →
        ∃ offset, evaluate e.text = .error (.malformed offset .nestedTooDeeply))) ∧
    ∀ (mode : Mode) (text : String), ∃ e : Expr, e.text = encode mode text ∧ e.depth ≤ 3 ∧
      ∀ other : Expr, other.text = encode mode text → other = e := by
  constructor
  · intro e v value
    refine ⟨fun shallow => ?_, evaluate_tooDeep value⟩
    rw [evaluate_written e shallow, value]
  · intro mode text
    have written := encode_eq_text mode text
    refine ⟨encodeExpr mode text, written.symm, encodeExpr_depth mode text,
      fun other same => ?_⟩
    apply Expr.lexemes_injective
    rw [← Lexeme.ofSource_text, ← Lexeme.ofSource_text, same, written]

/-! ## Lists inside lists -/

/-- The empty list inside a number of other lists. -/
def Expr.nest : Nat → Expr
  | 0 => Numeral.nothing
  | n + 1 => (Term.list [nest n]).toExpr

/-- The value of the empty list inside a number of other lists. -/
def Value.nest : Nat → Value
  | 0 => .list []
  | n + 1 => .list [nest n]

/-- The nested brackets are a list inside a list, as often as there are levels. -/
theorem Expr.nest_value (n : Nat) : (nest n).value = .ok (.nest n) := by
  induction n with
  | zero => rfl
  | succ n ih =>
    rw [nest, Term.toExpr_value, Term.value, values, ih]
    rfl

/-- The nested brackets are as deep as their number tells. -/
theorem Expr.nest_depth (n : Nat) : (nest n).depth = n := by
  induction n with
  | zero => rfl
  | succ n ih =>
    rw [nest, Term.toExpr_depth, Term.depth, depthInside, ih, depthInside]
    omega

/-- One level more is one more list around it. -/
theorem Expr.nest_succ_text (n : Nat) : (nest (n + 1)).text = (Term.list [nest n]).text :=
  Term.toExpr_text _

/-- First all brackets open, then all close. -/
theorem Expr.nest_text (n : Nat) :
    (nest n).text.toList = List.replicate (n + 1) '[' ++ List.replicate (n + 1) ']' := by
  induction n with
  | zero => simp [nest, Numeral.nothing, Term.toExpr_text, Term.text]
  | succ n ih =>
    have opening : List.replicate (n + 2) '[' = '[' :: List.replicate (n + 1) '[' := rfl
    have closing : List.replicate (n + 2) ']' = List.replicate (n + 1) ']' ++ [']'] :=
      List.replicate_succ'
    rw [nest_succ_text, Term.text, List.map_singleton, String.intercalate_singleton,
      String.toList_append, String.toList_append, ih, opening, closing]
    simp

namespace Reader

/-- Opening brackets are read as long as there is room for a deeper level. -/
theorem read_brackets (room : Nat) {s : State} (opened : s.focus = .opened .list)
    (h : s.frames.length + room = deepestLevel) :
    read 0 (.reading s) (List.replicate (room + 1) '[') =
      .failed (s.offset + room) (.malformed (s.offset + room) .nestedTooDeeply) := by
  have no_blank : Text.isBlank '[' = false := rfl
  have no_closer : '[' ≠ Maker.list.closer := by decide
  have opens : s.read 0 '[' = s.readOpened 0 .list '[' := by rw [State.read, opened]
  induction room generalizing s with
  | zero =>
    have deepest : s.isDeepest 0 = true := by
      simp only [State.isDeepest, decide_eq_true_eq]
      omega
    show s.read 0 '[' = _
    simp only [opens, State.readOpened, no_blank, no_closer, deepest, Bool.false_eq_true, if_true,
      if_false, Nat.add_zero]
  | succ room ih =>
    have deepest : s.isDeepest 0 = false := by
      simp only [State.isDeepest, decide_eq_false_iff_not]
      omega
    have step : s.read 0 '[' =
        .reading ⟨s.offset + 1, .items .list [] s.left :: s.frames, none, .opened .list⟩ := by
      simp only [opens, State.readOpened, no_blank, no_closer, deepest, Bool.false_eq_true,
        if_false]
      rfl
    have split_read : read 0 (.reading s) (List.replicate (room + 2) '[') =
        read 0 (s.read 0 '[') (List.replicate (room + 1) '[') := rfl
    rw [split_read, step, ih rfl ?_ rfl]
    · rw [Nat.add_assoc, Nat.add_comm 1 room]
    · rw [List.length_cons]
      omega

end Reader

/-- Behind a plus sign, lists inside lists are read up to the first bracket that is too deep. -/
theorem evaluate_plus_nest {start : String} {sum : Value} {offset n : Nat}
    (h : Reader.read 0 (.start 0 0) start.toList = .reading ⟨offset, [], some sum, .operand⟩)
    (deep : Reader.deepestLevel < n) :
    evaluate (start ++ (Expr.nest n).text) =
      .error (.malformed (offset + 1 + Reader.deepestLevel) .nestedTooDeeply) := by
  have brackets : List.replicate (n + 1) '[' =
      '[' :: (List.replicate (Reader.deepestLevel + 1) '[' ++
        List.replicate (n - (Reader.deepestLevel + 1)) '[') := by
    have count : Reader.deepestLevel + 1 + (n - (Reader.deepestLevel + 1)) = n := by omega
    rw [List.replicate_append_replicate, count, List.replicate_succ]
  have letters : (start ++ (Expr.nest n).text).toList =
      start.toList ++ (['['] ++ (List.replicate (Reader.deepestLevel + 1) '[' ++
        (List.replicate (n - (Reader.deepestLevel + 1)) '[' ++ List.replicate (n + 1) ']'))) := by
    have regroup (as bs cs ds : List Char) (c : Char) :
        as ++ (c :: (bs ++ cs) ++ ds) = as ++ ([c] ++ (bs ++ (cs ++ ds))) := by simp
    rw [String.toList_append, Expr.nest_text, brackets]
    exact regroup _ _ _ _ '['
  have opened : Reader.read 0 (.reading ⟨offset, [], some sum, .operand⟩) ['['] =
      .reading ⟨offset + 1, [], some sum, .opened .list⟩ := rfl
  have stopped (place : Nat) (problem : Problem) :
      (Reader.Status.failed place problem).Stopped := trivial
  rw [evaluate, letters, Reader.read_append, h, Reader.read_append, opened, Reader.read_append,
    Reader.read_brackets Reader.deepestLevel rfl (Nat.zero_add _),
    Reader.read_of_stopped (stopped _ _)]
  rfl

/-- Lists inside lists on both sides of the limit. -/
theorem nesting_limit_lists :
    (Expr.nest 256).value = .ok (.nest 256) ∧ (Expr.nest 257).value = .ok (.nest 257) ∧
      evaluate (Expr.nest 256).text = .ok (.nest 256) ∧
      ∃ offset, evaluate (Expr.nest 257).text = .error (.malformed offset .nestedTooDeeply) := by
  have inside := nesting_limit.1 _ _ (Expr.nest_value 256)
  have outside := nesting_limit.1 _ _ (Expr.nest_value 257)
  refine ⟨Expr.nest_value 256, Expr.nest_value 257, inside.1 ?_, outside.2 ?_⟩
  · exact Nat.le_of_eq (Expr.nest_depth 256)
  · rw [Expr.nest_depth]
    decide

end Lipogram
