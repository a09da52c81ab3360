import Lipogram.Proofs.DraftValue

/-!
# Reading and drafting agree

The machine evaluates while it reads. What it holds behind some lexemes is at all times the value of
the draft that these lexemes make (`take_status`), and where the draft cannot go on, the machine
stops (`take_none`). So a source whose lexemes are those of an expression has the value of that
expression, and a source that has a value has the lexemes of an expression.
-/

set_option autoImplicit false

namespace Lipogram

open Reader

namespace Draft

/-! ## Where a draft goes on -/

/-- Where an operand must begin, the machine takes a lexeme as the draft grows by it. -/
theorem take_operand {frames : List Draft.Frame} {left : Option Expr} {l : Lexeme} {d : Draft}
    (h : growOperand frames left l = some d) :
    take (status ⟨frames, left, .operand⟩) l = d.status := by
  cases l with
  | mark c =>
    simp only [growOperand] at h
    split_ifs at h with opens
    obtain rfl := Option.some.inj h
    subst opens
    apply take_bind
    intro fs _
    apply take_bind
    intro l _
    rfl
  | word letters =>
    simp only [growOperand, Option.map_eq_some_iff] at h
    obtain ⟨n, spelled, rfl⟩ := h
    apply take_bind
    intro fs _
    apply take_bind
    intro l _
    rw [← Name.lexeme_ofLetters spelled]
    simp only [Focus.state, map_eq_bind, bind_bind, ok_bind]
    rw [← map_eq_bind]
    exact take_name fs l n

/-- Behind a sum, the machine takes a character as the draft grows by it. -/
theorem take_after_sum {frames : List Draft.Frame} {left : Option Expr} {t : Term} {c : Char}
    {d : Draft} (h : growAfterSum frames (.plus left t) c = some d) :
    take (status ⟨frames, left, .term t⟩) (.mark c) = d.status := by
  cases frames with
  | nil => simp [growAfterSum] at h
  | cons frame frames =>
    cases frame with
    | items opener done outer =>
      simp only [growAfterSum] at h
      split_ifs at h with comma closes
      · obtain rfl := Option.some.inj h
        subst comma
        simp only [status, state, frameStates, Frame.state, Focus.state, List.length_cons,
          List.reverse_cons, Expr.valuesAt_append, Expr.plus_valueAt, map_eq_bind, bind_bind,
          ok_bind]
        apply take_bind
        intro fs _
        apply take_bind
        intro l₀ _
        apply take_bind
        intro maker _
        apply take_bind
        intro vs _
        apply take_bind
        intro u entered
        apply take_bind
        intro l _
        apply take_bind
        intro v _
        simp only [entered, List.reverse_append, List.reverse_singleton, List.singleton_append]
        exact take_comma fs l₀ l v maker vs.reverse
      · obtain rfl := Option.some.inj h
        subst closes
        simp only [status, state, frameStates, Frame.state, Focus.state, List.length_cons,
          List.reverse_cons, Expr.valuesAt_append, Expr.plus_valueAt, map_eq_bind, bind_bind,
          ok_bind, Opener.valueAt_term]
        apply take_bind
        intro fs _
        apply take_bind
        intro l₀ _
        apply take_bind
        intro maker known
        apply take_bind
        intro vs _
        apply take_bind
        intro u _
        apply take_bind
        intro l _
        apply take_bind
        intro v _
        rw [← Opener.maker_closer known]
        have closed := take_closer fs l₀ l v maker vs.reverse
        simp only [List.reverse_cons, List.reverse_reverse] at closed
        exact closed
    | index base outer =>
      simp only [growAfterSum] at h
      split_ifs at h with closes
      obtain rfl := Option.some.inj h
      subst closes
      simp only [status, state, frameStates, Frame.state, Focus.state, List.length_cons,
        Term.valueAt, Expr.plus_valueAt, map_eq_bind, bind_bind, ok_bind]
      apply take_bind
      intro fs _
      apply take_bind
      intro l₀ _
      apply take_bind
      intro w _
      apply take_bind
      intro u _
      apply take_bind
      intro l _
      apply take_bind
      intro v _
      exact take_index_closer fs l₀ l v w

/-- Behind a term, the machine takes a character as the draft grows by it. -/
theorem take_after_term {frames : List Draft.Frame} {left : Option Expr} {t : Term} {c : Char}
    {d : Draft} (h : growAfterTerm frames left t c = some d) :
    take (status ⟨frames, left, .term t⟩) (.mark c) = d.status := by
  simp only [growAfterTerm] at h
  split_ifs at h with opens adds
  · obtain rfl := Option.some.inj h
    subst opens
    simp only [status, state, frameStates, Frame.state, Focus.state, map_eq_bind, bind_bind,
      ok_bind]
    apply take_bind
    intro fs evaluated
    apply take_bind
    intro l _
    apply take_bind
    intro v _
    rw [← frameStates_length evaluated]
    exact take_index fs l v
  · obtain rfl := Option.some.inj h
    subst adds
    simp only [status, state, Focus.state, Expr.leftAt, Expr.plus_valueAt, map_eq_bind, bind_bind,
      ok_bind]
    apply take_bind
    intro fs _
    apply take_bind
    intro l _
    apply take_bind
    intro v _
    exact take_plus fs l v
  · exact take_after_sum h

/-- Behind an opening bracket, the first lexeme of an item is taken as inside the bracket. -/
theorem take_opened (frames : List Draft.Frame) (left : Option Expr) (opener : Opener) {l : Lexeme}
    (proper : l.IsProper) (h : l ≠ .mark opener.closer) :
    take (status ⟨frames, left, .opened opener⟩) l =
      take (status ⟨.items opener [] left :: frames, none, .operand⟩) l := by
  simp only [status, state, frameStates, Frame.state, Focus.state, List.reverse_nil,
    Expr.valuesAt, map_eq_bind, bind_bind, ok_bind]
  apply take_bind_congr
  intro fs evaluated
  apply take_bind_congr
  intro l₀ _
  apply take_bind_congr
  intro maker known
  rw [← frameStates_length evaluated]
  exact take_opened_item fs l₀ maker proper (by rwa [Opener.maker_closer known])

/-- Behind a name, all lexemes but the one that makes a call are taken as behind another term. -/
theorem take_name_term (frames : List Draft.Frame) (left : Option Expr) (n : Name) {l : Lexeme}
    (proper : l.IsProper) (h : l ≠ .mark '(') :
    take (status ⟨frames, left, .name n⟩) l = take (status ⟨frames, left, .term (.name n)⟩) l := by
  simp only [status, state, Focus.state, Term.valueAt, map_eq_bind, bind_bind, ok_bind]
  apply take_bind_congr
  intro fs _
  apply take_bind_congr
  intro l₀ _
  apply take_bind_congr
  intro f _
  exact take_behind_name fs l₀ f proper h

/-- The machine takes a lexeme as a draft grows by it. -/
theorem take_status {d d' : Draft} {l : Lexeme} (proper : l.IsProper) (h : d.grow l = some d') :
    take d.status l = d'.status := by
  obtain ⟨frames, left, focus⟩ := d
  cases focus with
  | operand => exact take_operand h
  | opened opener =>
    simp only [grow] at h
    split_ifs at h with closes
    · obtain rfl := Option.some.inj h
      subst closes
      simp only [status, state, Focus.state, Opener.valueAt_term, Expr.valuesAt, map_eq_bind,
        bind_bind, ok_bind]
      apply take_bind
      intro fs _
      apply take_bind
      intro l _
      apply take_bind
      intro maker known
      rw [← Opener.maker_closer known]
      exact take_empty fs l maker
    · rw [take_opened frames left opener proper closes]
      exact take_operand h
  | name n =>
    cases l with
    | word letters => simp [grow] at h
    | mark c =>
      simp only [grow] at h
      split_ifs at h with opens
      · obtain rfl := Option.some.inj h
        subst opens
        simp only [status, state, Focus.state, Opener.maker, map_eq_bind, bind_bind, ok_bind]
        apply take_bind
        intro fs _
        apply take_bind
        intro l _
        apply take_bind
        intro f _
        rfl
      · have other : Lexeme.mark c ≠ .mark '(' := fun eq => opens (Lexeme.mark.inj eq)
        rw [take_name_term frames left n proper other]
        exact take_after_term h
  | term t =>
    cases l with
    | word letters => simp [grow] at h
    | mark c => exact take_after_term h

/-- As long as the draft grows, the machine takes the lexemes as it does. -/
theorem takeAll_status {d d' : Draft} {ls : List Lexeme} (proper : ∀ l ∈ ls, l.IsProper)
    (h : d.growAll ls = some d') : takeAll d.status ls = d'.status := by
  induction ls generalizing d with
  | nil =>
    obtain rfl : d = d' := by simpa [growAll] using h
    rfl
  | cons l ls ih =>
    rw [growAll_cons] at h
    obtain ⟨next, grown, h⟩ := Option.bind_eq_some_iff.mp h
    rw [List.forall_mem_cons] at proper
    have split_take : takeAll d.status (l :: ls) = takeAll (take d.status l) ls := rfl
    rw [split_take, take_status proper.1 grown, ih proper.2 h]

/-- Where a draft may end, the machine has the value of the expression. -/
theorem finish_status {d : Draft} {e : Expr} (h : d.finish = some e) :
    placeless (d.status.finish 0) = placeless (e.valueAt 0) := by
  obtain ⟨frames, left, focus⟩ := d
  cases frames with
  | cons frame frames => simp [finish] at h
  | nil =>
    cases focus with
    | name n =>
      obtain rfl := Option.some.inj h
      simp only [status, state, frameStates, Focus.state, Expr.plus_valueAt, Term.valueAt,
        map_eq_bind, bind_bind, ok_bind]
      apply finish_bind
      intro l
      apply finish_bind
      intro f
      exact congrArg placeless (finishTerm_eq_total (.builtin f) ⟨0, [], l, .name f⟩ rfl)
    | term t =>
      obtain rfl := Option.some.inj h
      simp only [status, state, frameStates, Focus.state, Expr.plus_valueAt, map_eq_bind,
        bind_bind, ok_bind]
      apply finish_bind
      intro l
      apply finish_bind
      intro v
      exact congrArg placeless (finishTerm_eq_total v ⟨0, [], l, .term v⟩ rfl)
    | _ => simp [finish] at h

/-! ## Where no draft goes on -/

/-- A letter goes on with no sum. -/
theorem growAfterTerm_starts (frames : List Draft.Frame) (left : Option Expr) (t : Term)
    {c : Char} (h : startsName c = true) : growAfterTerm frames left t c = none := by
  have other (d : Char) (no_letter : startsName d = false) : c ≠ d := by
    apply ne_of_apply_ne startsName
    rw [h, no_letter]
    decide
  have bracket := other '[' rfl
  have plus := other '+' rfl
  have comma := other ',' rfl
  have closing := other ']' rfl
  rcases frames with _ | ⟨⟨opener, done, outer⟩ | ⟨base, outer⟩, frames⟩
  · simp [growAfterTerm, growAfterSum, bracket, plus]
  · have closer : c ≠ opener.closer := other _ (by cases opener <;> rfl)
    simp [growAfterTerm, growAfterSum, bracket, plus, comma, closer]
  · simp [growAfterTerm, growAfterSum, bracket, plus, closing]

/-- A character behind a term that no draft grows by stops the machine. -/
theorem readAfterTerm_stopped {frames : List Draft.Frame} {left : Option Expr} {t : Term}
    {c : Char} {fs : List Reader.Frame} (evaluated : frameStates frames = .ok fs)
    (blank : Text.isBlank c = false) (h : growAfterTerm frames left t c = none)
    (l : Option Value) (v : Value) :
    (Status.read 0 (.reading ⟨0, fs, l, .term v⟩) c).Stopped := by
  simp only [growAfterTerm] at h
  split_ifs at h with bracket plus
  simp only [Status.read, State.read, State.readAfterTerm, blank, bracket, plus,
    Bool.false_eq_true, if_false]
  cases total l v with
  | error problem => trivial
  | ok sum =>
    cases frames with
    | nil =>
      obtain rfl := Except.ok.inj evaluated
      trivial
    | cons frame frames =>
      obtain ⟨gs, -, mapped⟩ := bind_eq_ok.mp evaluated
      obtain ⟨g, of_frame, rfl⟩ := map_eq_ok.mp mapped
      cases frame with
      | items opener done outer =>
        simp only [growAfterSum] at h
        split_ifs at h with comma closer
        obtain ⟨l₀, -, of_items⟩ := bind_eq_ok.mp of_frame
        obtain ⟨maker, known, of_items⟩ := bind_eq_ok.mp of_items
        obtain ⟨vs, -, of_items⟩ := bind_eq_ok.mp of_items
        obtain ⟨u, -, rfl⟩ := map_eq_ok.mp of_items
        rw [← Opener.maker_closer known] at closer
        simp only [State.readAfterSum, comma, closer, if_false]
        trivial
      | index base outer =>
        simp only [growAfterSum] at h
        split_ifs at h with closer
        obtain ⟨l₀, -, of_index⟩ := bind_eq_ok.mp of_frame
        obtain ⟨w, -, of_index⟩ := bind_eq_ok.mp of_index
        obtain ⟨u, -, rfl⟩ := map_eq_ok.mp of_index
        simp only [State.readAfterSum, closer, if_false]
        trivial

/-- A lexeme that no operand begins with stops the machine. -/
theorem take_operand_none {frames : List Draft.Frame} {left : Option Expr} {l : Lexeme}
    (proper : l.IsProper) (h : growOperand frames left l = none) :
    (take (status ⟨frames, left, .operand⟩) l).Stopped := by
  cases l with
  | word letters =>
    obtain ⟨n, spelled⟩ := proper
    obtain rfl : n.first :: n.rest = letters := Lexeme.word.inj spelled
    simp [growOperand, n.ofLetters_lexeme] at h
  | mark c =>
    simp only [growOperand] at h
    split_ifs at h with bracket
    apply take_bind_stopped
    intro fs _
    apply take_bind_stopped
    intro l _
    have failed : Status.read 0 (.reading ⟨0, fs, l, .operand⟩) c =
        .failed 0 (.malformed 0 (.unexpected c)) := by
      simp [Status.read, State.read, State.readOperand, proper.1, proper.2, bracket]
    have stopped : (Status.read 0 (.reading ⟨0, fs, l, .operand⟩) c).Stopped := by
      rw [failed]
      trivial
    exact unplaced_stopped stopped

/-- A lexeme that cannot come behind a term stops the machine. -/
theorem take_term_none {frames : List Draft.Frame} {left : Option Expr} {t : Term} {l : Lexeme}
    (proper : l.IsProper) (h : grow ⟨frames, left, .term t⟩ l = none) :
    (take (status ⟨frames, left, .term t⟩) l).Stopped := by
  apply take_bind_stopped
  intro fs evaluated
  apply take_bind_stopped
  intro l₀ _
  simp only [Focus.state, map_eq_bind, bind_bind, ok_bind]
  apply take_bind_stopped
  intro v _
  apply take_stopped proper
  intro c blank begins
  have no_sum : growAfterTerm frames left t c = none := by
    rcases begins with rfl | starts
    · exact h
    · exact growAfterTerm_starts frames left t starts
  exact readAfterTerm_stopped evaluated blank no_sum l₀ v

/-- A lexeme that cannot come behind a name stops the machine. -/
theorem take_name_none {frames : List Draft.Frame} {left : Option Expr} {n : Name} {l : Lexeme}
    (proper : l.IsProper) (h : grow ⟨frames, left, .name n⟩ l = none) :
    (take (status ⟨frames, left, .name n⟩) l).Stopped := by
  have other : l ≠ .mark '(' := by
    rintro rfl
    simp [grow] at h
  rw [take_name_term frames left n proper other]
  refine take_term_none proper ?_
  cases l with
  | word letters => rfl
  | mark c =>
    have parenthesis : c ≠ '(' := fun eq => other (congrArg Lexeme.mark eq)
    simpa [grow, parenthesis] using h

/-- Where no draft goes on, the machine stops. -/
theorem take_none {d : Draft} {l : Lexeme} (proper : l.IsProper) (h : d.grow l = none) :
    (take d.status l).Stopped := by
  obtain ⟨frames, left, focus⟩ := d
  cases focus with
  | operand => exact take_operand_none proper h
  | opened opener =>
    simp only [grow] at h
    split_ifs at h with closes
    rw [take_opened frames left opener proper closes]
    exact take_operand_none proper h
  | name n => exact take_name_none proper h
  | term t => exact take_term_none proper h

/-- A source that ends before its draft is finished has no value. -/
theorem finish_none {d : Draft} (h : d.finish = none) (v : Value) : d.status.finish 0 ≠ .ok v := by
  rw [status]
  cases evaluated : d.state with
  | error problem => exact finish_stopped (by trivial) v
  | ok s =>
    obtain ⟨frames, left, focus⟩ := d
    obtain ⟨fs, of_frames, evaluated⟩ := bind_eq_ok.mp evaluated
    obtain ⟨l, -, evaluated⟩ := bind_eq_ok.mp evaluated
    obtain ⟨g, of_focus, rfl⟩ := map_eq_ok.mp evaluated
    have in_bracket (inside : frames ≠ []) : fs ≠ [] := by
      rwa [ne_eq, ← List.length_eq_zero_iff, frameStates_length of_frames,
        List.length_eq_zero_iff]
    cases focus with
    | operand =>
      obtain rfl := Except.ok.inj of_focus
      simp [Status.ofOutcome, Status.finish, State.finish]
    | opened opener =>
      obtain ⟨maker, -, rfl⟩ := map_eq_ok.mp of_focus
      simp [Status.ofOutcome, Status.finish, State.finish]
    | name n =>
      obtain ⟨f, -, rfl⟩ := map_eq_ok.mp of_focus
      refine finishTerm_ne_ok (.builtin f) ⟨0, fs, l, .name f⟩ (in_bracket ?_) v
      rintro rfl
      simp [finish] at h
    | term t =>
      obtain ⟨w, -, rfl⟩ := map_eq_ok.mp of_focus
      refine finishTerm_ne_ok w ⟨0, fs, l, .term w⟩ (in_bracket ?_) v
      rintro rfl
      simp [finish] at h

/-- Where a machine has a value, the draft of the same lexemes is an expression. -/
theorem parse_of_outcome {d : Draft} {ls : List Lexeme} {v : Value}
    (proper : ∀ l ∈ ls, l.IsProper) (h : (takeAll d.status ls).finish 0 = .ok v) :
    ∃ e, (d.growAll ls).bind finish = some e := by
  induction ls generalizing d with
  | nil =>
    cases finished : d.finish with
    | none => exact absurd h (finish_none finished v)
    | some e => exact ⟨e, finished⟩
  | cons l ls ih =>
    rw [List.forall_mem_cons] at proper
    have split_take : takeAll d.status (l :: ls) = takeAll (take d.status l) ls := rfl
    rw [split_take] at h
    cases grown : d.grow l with
    | none =>
      have stopped := takeAll_stopped (take_none proper.1 grown) ls
      exact absurd h (finish_stopped stopped v)
    | some next =>
      rw [take_status proper.1 grown] at h
      rw [growAll_cons, grown]
      exact ih proper.2 h

end Draft

/-- Lexemes that are those of an expression have the value of that expression. -/
theorem Reader.outcome_lexemes {e : Expr} (proper : ∀ l ∈ e.lexemes, l.IsProper) :
    placeless (outcome e.lexemes) = placeless (e.valueAt 0) := by
  obtain ⟨d, grown, finished⟩ := Option.bind_eq_some_iff.mp (Expr.parse_eq_some_iff.mpr rfl)
  have taken : takeAll (.start 0 0) e.lexemes = d.status := Draft.takeAll_status proper grown
  rw [outcome, taken, Draft.finish_status finished]

/-- Lexemes that have a value are those of an expression. -/
theorem Reader.exists_lexemes_of_outcome {ls : List Lexeme} {v : Value}
    (proper : ∀ l ∈ ls, l.IsProper) (h : outcome ls = .ok v) : ∃ e : Expr, e.lexemes = ls := by
  have reads : (takeAll Draft.blank.status ls).finish 0 = .ok v := h
  obtain ⟨e, parsed⟩ := Draft.parse_of_outcome proper reads
  exact ⟨e, Expr.parse_eq_some_iff.mp parsed⟩

/-! ## Sources -/

/-- A source with the lexemes of an expression has the value of that expression with levels, apart
from the place of a malformation. -/
theorem placeless_evaluate {source : String} {e : Expr} (h : e.lexemes = Lexeme.ofSource source) :
    placeless (evaluate source) = placeless (e.valueAt 0) := by
  rw [evaluate_lexemes, ← h, Reader.outcome_lexemes]
  intro l mem
  rw [h] at mem
  exact Lexeme.proper_of_mem_source mem

end Lipogram
