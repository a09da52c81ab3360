import Lipogram.Proofs.Layout
import Lipogram.Proofs.Levels

/-!
# Single lexemes

What the machine does with each lexeme that may go on with an expression, as a chain of evaluations:
either the machine comes to a new state, or it has met a problem and stays there.
-/

set_option autoImplicit false

namespace Lipogram.Reader

/-! ## Machines that have stopped -/

/-- A machine that reads no more. -/
def Status.Stopped : Status → Prop
  | reading _ => False
  | _ => True

/-- A machine that has stopped stays as it is. -/
theorem read_of_stopped {base : Nat} {status : Status} (h : status.Stopped) (cs : List Char) :
    read base status cs = status := by
  induction cs with
  | nil => rfl
  | cons c cs ih =>
    have same : status.read base c = status := by
      cases status with
      | reading s => exact absurd h id
      | ended v offset => rfl
      | failed offset problem => rfl
    have split_read : read base status (c :: cs) = read base (status.read base c) cs := rfl
    rw [split_read, same, ih]

/-- A machine that has stopped stays so. -/
theorem read_stopped {status : Status} (h : status.Stopped) (cs : List Char) :
    (read 0 status cs).Stopped := by
  rw [read_of_stopped h]
  exact h

/-- It is stopped without its offsets too. -/
theorem unplaced_stopped {status : Status} (h : status.Stopped) : status.unplaced.Stopped := by
  cases status with
  | reading s => exact h
  | _ => trivial

/-! ## Brackets that close -/

/-- The closing character of a bracket is no blank. -/
theorem Maker.blank_closer (maker : Maker) : Text.isBlank maker.closer = false := by
  cases maker <;> rfl

/-- Nothing but the two closing brackets closes a bracket. -/
theorem Maker.closer_ne (maker : Maker) {c : Char} (square : c ≠ ']') (round : c ≠ ')') :
    maker.closer ≠ c := by
  cases maker with
  | list => exact square.symm
  | call f => exact round.symm

/-! ## Chains of evaluations -/

/-- The machine that has come to a state or met a problem. -/
def Status.ofOutcome : Except Problem State → Status
  | .ok s => .reading s
  | .error problem => .failed 0 problem.unplaced

/-- A machine that has met a problem takes no more lexemes. -/
theorem take_failed (problem : Problem) (l : Lexeme) :
    take (.failed 0 problem.unplaced) l = .failed 0 problem.unplaced := by
  have stopped : (Status.failed 0 problem.unplaced).Stopped := trivial
  have unplaced : (Status.failed 0 problem.unplaced).unplaced = .failed 0 problem.unplaced := by
    cases problem <;> rfl
  cases l with
  | word letters => rw [take, read_of_stopped stopped, unplaced]
  | mark c => exact unplaced

/-- Two chains that begin with the same link are compared behind it. -/
theorem take_bind {α : Type} (x : Except Problem α) {f g : α → Except Problem State} {l : Lexeme}
    (h : ∀ a, x = .ok a → take (.ofOutcome (f a)) l = .ofOutcome (g a)) :
    take (.ofOutcome (x.bind f)) l = .ofOutcome (x.bind g) := by
  cases x with
  | ok a => exact h a rfl
  | error problem => exact take_failed problem l

/-- Two chains that begin with the same link go on alike if they do so behind it. -/
theorem take_bind_congr {α : Type} (x : Except Problem α) {f g : α → Except Problem State}
    {l : Lexeme}
    (h : ∀ a, x = .ok a → take (.ofOutcome (f a)) l = take (.ofOutcome (g a)) l) :
    take (.ofOutcome (x.bind f)) l = take (.ofOutcome (x.bind g)) l := by
  cases x with
  | ok a => exact h a rfl
  | error problem => rfl

/-- A chain and the machine at its end have the same outcome if they have it behind the first
link. -/
theorem finish_bind {α : Type} (x : Except Problem α) {f : α → Except Problem State}
    {g : α → Except Problem Value}
    (h : ∀ a, placeless ((Status.ofOutcome (f a)).finish 0) = placeless (g a)) :
    placeless ((Status.ofOutcome (x.bind f)).finish 0) = placeless (x.bind g) := by
  cases x with
  | ok a => exact h a
  | error problem => cases problem <;> rfl

/-! ## Names -/

/-- No name begins with a blank. -/
theorem blank_eq_false_of_starts {c : Char} (h : startsName c = true) :
    Text.isBlank c = false := by
  cases blank : Text.isBlank c with
  | false => rfl
  | true =>
    have ends := continues_eq_false_of_blank blank
    rw [continues_of_starts h] at ends
    exact ends

/-- The letters of a word are read one by one. -/
theorem read_letters (cs letters : List Char) (offset : Nat) (frames : List Frame)
    (left : Option Value) (h : cs.all continuesName = true) :
    ∃ offset', read 0 (.reading ⟨offset, frames, left, .word letters⟩) cs =
      .reading ⟨offset', frames, left, .word (cs.reverse ++ letters)⟩ := by
  induction cs generalizing letters offset with
  | nil => exact ⟨offset, rfl⟩
  | cons c cs ih =>
    simp only [List.all_cons, Bool.and_eq_true] at h
    obtain ⟨offset', reads⟩ := ih (c :: letters) (offset + c.utf8Size) h.2
    refine ⟨offset', ?_⟩
    have step : Status.read 0 (.reading ⟨offset, frames, left, .word letters⟩) c =
        .reading ⟨offset + c.utf8Size, frames, left, .word (c :: letters)⟩ := by
      simp [Status.read, State.read, State.readInWord, h.1, State.past]
    have split_read : read 0 (.reading ⟨offset, frames, left, .word letters⟩) (c :: cs) =
        read 0 (Status.read 0 (.reading ⟨offset, frames, left, .word letters⟩) c) cs := rfl
    rw [split_read, step, reads]
    simp

/-- The letters of a name name its built-in. -/
theorem named_name (n : Name) : State.named (n.rest.reverse ++ [n.first]) = n.builtin := by
  have spelled : (n.rest.reverse ++ [n.first]).reverse = n.first :: n.rest := by simp
  unfold State.named
  simp only [spelled]
  unfold Name.builtin Name.text
  cases Builtin.ofName? (String.ofList (n.first :: n.rest)) <;> rfl

/-- A name is taken where an operand must begin. -/
theorem take_name (frames : List Frame) (left : Option Value) (n : Name) :
    take (.reading ⟨0, frames, left, .operand⟩) n.lexeme =
      .ofOutcome (n.builtin.map (fun f => ⟨0, frames, left, .name f⟩)) := by
  have blank := blank_eq_false_of_starts n.first_starts
  have bracket : n.first ≠ '[' := by
    apply ne_of_apply_ne startsName
    rw [n.first_starts]
    decide
  have begins : Status.read 0 (.reading ⟨0, frames, left, .operand⟩) n.first =
      .reading ⟨0 + n.first.utf8Size, frames, left, .word [n.first]⟩ := by
    simp [Status.read, State.read, State.readOperand, blank, bracket, n.first_starts, State.past]
  obtain ⟨offset, letters⟩ := read_letters n.rest [n.first] (0 + n.first.utf8Size) frames left
    n.rest_continues
  have split_read : read 0 (.reading ⟨0, frames, left, .operand⟩) (n.first :: n.rest ++ [' ']) =
      Status.read 0 (read 0 (Status.read 0 (.reading ⟨0, frames, left, .operand⟩) n.first)
        n.rest) ' ' := by
    rw [List.cons_append, ← List.singleton_append, read_append, read_append]
    rfl
  have ends : continuesName ' ' = false := rfl
  rw [Name.lexeme, take, split_read, begins, letters]
  simp only [Status.read, State.read, State.readInWord, ends, Bool.false_eq_true, if_false,
    named_name]
  cases n.builtin <;> rfl

/-- Machines that read the first character of a lexeme alike take the lexeme alike. -/
theorem take_of_first {a b : Status} {l : Lexeme} (proper : l.IsProper)
    (h : ∀ c, Text.isBlank c = false → l = .mark c ∨ startsName c = true →
      (a.read 0 c).unplaced = (b.read 0 c).unplaced) :
    take a l = take b l := by
  cases l with
  | mark c => exact h c proper.1 (.inl rfl)
  | word letters =>
    obtain ⟨n, spelled⟩ := proper
    rw [← spelled]
    have first := h n.first (blank_eq_false_of_starts n.first_starts) (.inr n.first_starts)
    exact read_congr 0 first (n.rest ++ [' '])

/-! ## Marks -/

section

variable (frames : List Frame) (outer left : Option Value) (v : Value)

/-- A comma behind an item completes it, and the next item must come. -/
theorem take_comma (maker : Maker) (done : List Value) :
    take (.reading ⟨0, .items maker done outer :: frames, left, .term v⟩) (.mark ',') =
      .ofOutcome ((total left v).bind (fun sum =>
        .ok ⟨0, .items maker (sum :: done) outer :: frames, none, .operand⟩)) := by
  have blank : Text.isBlank ',' = false := rfl
  simp only [take, Status.read, State.read, State.readAfterTerm, blank]
  cases total left v <;> rfl

/-- A closing bracket behind the last item makes the value of all items. -/
theorem take_closer (maker : Maker) (done : List Value) :
    take (.reading ⟨0, .items maker done outer :: frames, left, .term v⟩) (.mark maker.closer) =
      .ofOutcome ((total left v).bind (fun sum => (maker.make (sum :: done).reverse).bind (fun w =>
        .ok ⟨0, frames, outer, .term w⟩))) := by
  have bracket : maker.closer ≠ '[' := maker.closer_ne (by decide) (by decide)
  have plus : maker.closer ≠ '+' := maker.closer_ne (by decide) (by decide)
  have comma : maker.closer ≠ ',' := maker.closer_ne (by decide) (by decide)
  simp only [take, Status.read, State.read, State.readAfterTerm, maker.blank_closer, bracket, plus,
    Bool.false_eq_true, if_false]
  cases total left v with
  | error problem => rfl
  | ok sum =>
    simp only [State.readAfterSum, State.past, State.close, comma, if_true, if_false, ok_bind]
    cases maker.make (sum :: done).reverse <;> rfl

/-- A closing bracket behind an index picks with it. -/
theorem take_index_closer (base : Value) :
    take (.reading ⟨0, .index base outer :: frames, left, .term v⟩) (.mark ']') =
      .ofOutcome ((total left v).bind (fun sum => (base.pick sum).bind (fun w =>
        .ok ⟨0, frames, outer, .term w⟩))) := by
  have blank : Text.isBlank ']' = false := rfl
  simp only [take, Status.read, State.read, State.readAfterTerm, blank]
  cases total left v with
  | error problem => rfl
  | ok sum =>
    simp only [ok_bind]
    show ((State.closeIndex _ base sum).unplaced = _)
    simp only [State.closeIndex, State.past]
    cases base.pick sum <;> rfl

/-- A bracket that closes at once makes its value of no items. -/
theorem take_empty (maker : Maker) :
    take (.reading ⟨0, frames, left, .opened maker⟩) (.mark maker.closer) =
      .ofOutcome ((maker.make []).bind (fun w => .ok ⟨0, frames, left, .term w⟩)) := by
  simp only [take, Status.read, State.read, State.readOpened, maker.blank_closer,
    Bool.false_eq_true, if_true, if_false, State.close, State.past]
  cases maker.make [] <;> rfl

/-- A plus sign completes the sum to its left. -/
theorem take_plus :
    take (.reading ⟨0, frames, left, .term v⟩) (.mark '+') =
      .ofOutcome ((total left v).bind (fun sum => .ok ⟨0, frames, some sum, .operand⟩)) := by
  have blank : Text.isBlank '+' = false := rfl
  simp only [take, Status.read, State.read, State.readAfterTerm, blank]
  cases total left v <;> rfl

/-- An opening bracket behind a term begins a subscript, one level further down. -/
theorem take_index :
    take (.reading ⟨0, frames, left, .term v⟩) (.mark '[') =
      .ofOutcome ((enter (frames.length + 1)).bind (fun _ =>
        .ok ⟨0, .index v left :: frames, none, .operand⟩)) := by
  have blank : Text.isBlank '[' = false := rfl
  simp only [take, Status.read, State.read, State.readAfterTerm, blank, Bool.false_eq_true, if_true,
    if_false, State.openIndex, enter]
  by_cases deep : deepestLevel < frames.length + 1
  · have deepest : State.isDeepest 0 ⟨0 + '['.utf8Size, frames, left, .operand⟩ = true := by
      simp only [State.isDeepest, decide_eq_true_eq]
      omega
    simp only [State.past, deepest, deep, if_true]
    rfl
  · have deepest : State.isDeepest 0 ⟨0 + '['.utf8Size, frames, left, .operand⟩ = false := by
      simp only [State.isDeepest, decide_eq_false_iff_not]
      omega
    simp only [State.past, deepest, deep, Bool.false_eq_true, if_false]
    rfl

/-- Behind a name, all lexemes but the one that makes a call are taken as behind its value. -/
theorem take_behind_name (f : Builtin) {l : Lexeme} (proper : l.IsProper) (h : l ≠ .mark '(') :
    take (.reading ⟨0, frames, left, .name f⟩) l =
      take (.reading ⟨0, frames, left, .term (.builtin f)⟩) l := by
  apply take_of_first proper
  intro c blank begins
  have parenthesis : c ≠ '(' := by
    rintro rfl
    rcases begins with rfl | starts
    · exact h rfl
    · exact absurd starts (by decide)
  simp only [Status.read, State.read, State.readAfterName, blank, parenthesis, Bool.false_eq_true,
    if_false]
  rfl

/-- Outside of brackets, a source may end behind a term, with the value of the sum. -/
theorem finishTerm_eq_total (s : State) (h : s.frames = []) : s.finishTerm v = total s.left v := by
  rw [State.finishTerm, h]
  cases total s.left v <;> rfl

/-- A source that ends inside a bracket has no value. -/
theorem finishTerm_ne_ok (s : State) (h : s.frames ≠ []) (w : Value) :
    s.finishTerm v ≠ .ok w := by
  rw [State.finishTerm]
  cases total s.left v with
  | error problem => simp
  | ok sum =>
    cases frames : s.frames with
    | nil => exact absurd frames h
    | cons frame rest => cases frame <;> simp

/-- The first item of a bracket begins as an expression one level deeper. -/
theorem readOpened_item (maker : Maker) {c : Char} (blank : Text.isBlank c = false)
    (h : c ≠ maker.closer) :
    (Status.read 0 (.reading ⟨0, frames, left, .opened maker⟩) c).unplaced =
      (Status.read 0 (.ofOutcome ((enter (frames.length + 1)).bind (fun _ =>
        .ok ⟨0, .items maker [] left :: frames, none, .operand⟩))) c).unplaced := by
  simp only [Status.read, State.read, State.readOpened, blank, h, Bool.false_eq_true, if_false,
    enter]
  by_cases deep : deepestLevel < frames.length + 1
  · have deepest : State.isDeepest 0 ⟨0, frames, left, .opened maker⟩ = true := by
      simp only [State.isDeepest, decide_eq_true_eq]
      omega
    simp only [deepest, deep, if_true]
    rfl
  · have deepest : State.isDeepest 0 ⟨0, frames, left, .opened maker⟩ = false := by
      simp only [State.isDeepest, decide_eq_false_iff_not]
      omega
    simp only [deepest, deep, Bool.false_eq_true, if_false]
    rfl

/-- Behind an opening bracket, the first lexeme of an item is taken one level further down. -/
theorem take_opened_item (maker : Maker) {l : Lexeme} (proper : l.IsProper)
    (h : l ≠ .mark maker.closer) :
    take (.reading ⟨0, frames, left, .opened maker⟩) l =
      take (.ofOutcome ((enter (frames.length + 1)).bind (fun _ =>
        .ok ⟨0, .items maker [] left :: frames, none, .operand⟩))) l := by
  apply take_of_first proper
  intro c blank begins
  refine readOpened_item frames left maker blank ?_
  rintro rfl
  rcases begins with rfl | starts
  · exact h rfl
  · cases maker <;> simp [Maker.closer, startsName] at starts

end

/-! ## Lexemes that stop the machine -/

/-- A machine that stops at the first character of a lexeme has stopped behind the lexeme. -/
theorem take_stopped {status : Status} {l : Lexeme} (proper : l.IsProper)
    (h : ∀ c, Text.isBlank c = false → l = .mark c ∨ startsName c = true →
      (status.read 0 c).Stopped) :
    (take status l).Stopped := by
  cases l with
  | mark c => exact unplaced_stopped (h c proper.1 (.inl rfl))
  | word letters =>
    obtain ⟨n, spelled⟩ := proper
    rw [← spelled]
    have first := h n.first (blank_eq_false_of_starts n.first_starts) (.inr n.first_starts)
    exact unplaced_stopped (read_stopped first (n.rest ++ [' ']))

/-- A machine that has stopped takes no lexeme. -/
theorem takeAll_stopped {status : Status} (h : status.Stopped) (ls : List Lexeme) :
    (takeAll status ls).Stopped := by
  induction ls generalizing status with
  | nil => exact h
  | cons l ls ih =>
    refine ih ?_
    cases l with
    | word letters => exact unplaced_stopped (read_stopped h _)
    | mark c => exact unplaced_stopped (read_stopped h [c])

/-- A machine that has stopped has no value. -/
theorem finish_stopped {status : Status} (h : status.Stopped) (v : Value) :
    status.finish 0 ≠ .ok v := by
  cases status with
  | reading s => exact absurd h id
  | _ => simp [Status.finish]

/-- A chain stops if it does so behind its first link. -/
theorem take_bind_stopped {α : Type} (x : Except Problem α) {f : α → Except Problem State}
    {l : Lexeme} (h : ∀ a, x = .ok a → (take (.ofOutcome (f a)) l).Stopped) :
    (take (.ofOutcome (x.bind f)) l).Stopped := by
  cases x with
  | ok a => exact h a rfl
  | error problem =>
    simp only [error_bind, Status.ofOutcome, take_failed]
    trivial

end Lipogram.Reader
