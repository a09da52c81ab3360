import Lipogram.Evaluation
import Mathlib.Tactic.SplitIfs

/-!
# Reading without offsets

The offsets that the machine counts show in nothing but the places of malformations. `unplaced`
forgets them; two machines that are equal without their offsets stay so whatever they read, and end
in outcomes that are equal without their places.
-/

set_option autoImplicit false

namespace Lipogram

/-- A problem without its place in the source. -/
def Problem.unplaced : Problem → Problem
  | .malformed _ fault => .malformed 0 fault
  | other => other

/-- An outcome without the place of its malformation. -/
def placeless {α : Type} (outcome : Except Problem α) : Except Problem α :=
  outcome.mapError Problem.unplaced

/-- An outcome is a value exactly if it is one without its place. -/
@[simp]
theorem placeless_eq_ok {α : Type} {outcome : Except Problem α} {v : α} :
    placeless outcome = .ok v ↔ outcome = .ok v := by
  cases outcome <;> simp [placeless, Except.mapError]

/-- A problem other than a malformation has no place to forget. -/
theorem placeless_eq_error {α : Type} {outcome : Except Problem α} {problem : Problem}
    (no_place : ∀ offset fault, problem ≠ .malformed offset fault)
    (h : placeless outcome = .error problem) : outcome = .error problem := by
  cases outcome with
  | ok v => simp [placeless, Except.mapError] at h
  | error other =>
    cases other with
    | malformed offset fault =>
      refine absurd ?_ (no_place 0 fault)
      simpa [placeless, Except.mapError, Problem.unplaced] using h.symm
    | _ => simpa [placeless, Except.mapError, Problem.unplaced] using h

/-- An outcome is a malformation exactly if it is one without its place. -/
theorem placeless_eq_malformed {α : Type} {outcome : Except Problem α} {fault : Malformation} :
    placeless outcome = .error (.malformed 0 fault) ↔
      ∃ offset, outcome = .error (.malformed offset fault) := by
  constructor
  · intro h
    cases outcome with
    | ok v => simp [placeless, Except.mapError] at h
    | error problem =>
      cases problem with
      | malformed offset other =>
        obtain ⟨-, rfl⟩ := Problem.malformed.inj (Except.error.inj h)
        exact ⟨offset, rfl⟩
      | _ => simp [placeless, Except.mapError, Problem.unplaced] at h
  · rintro ⟨offset, rfl⟩
    rfl

namespace Reader

/-- A state moved to another offset. -/
def State.at (s : State) (offset : Nat) : State :=
  { s with offset := offset }

/-- A status with its offsets forgotten. -/
def Status.unplaced : Status → Status
  | reading s => reading (s.at 0)
  | ended v _ => ended v 0
  | failed _ problem => failed 0 problem.unplaced

namespace State

variable (base : Nat) (s : State) (offset : Nat)

/-- Where an operand must begin, a character is read alike at every offset. -/
theorem readOperand_at (c : Char) :
    ((s.at offset).readOperand c).unplaced = (s.readOperand c).unplaced := by
  simp only [readOperand]
  split_ifs <;> rfl

/-- A bracket closes alike at every offset. -/
theorem close_at (maker : Maker) (items : List Value) :
    ((s.at offset).close maker items).unplaced = (s.close maker items).unplaced := by
  simp only [close]
  cases maker.make items <;> rfl

/-- A subscript closes alike at every offset. -/
theorem closeIndex_at (v index : Value) :
    ((s.at offset).closeIndex v index).unplaced = (s.closeIndex v index).unplaced := by
  simp only [closeIndex]
  cases v.pick index <;> rfl

/-- Behind an opening bracket, a character is read alike at every offset. -/
theorem readOpened_at (maker : Maker) (c : Char) :
    ((s.at offset).readOpened base maker c).unplaced = (s.readOpened base maker c).unplaced := by
  have deepest : (s.at offset).isDeepest base = s.isDeepest base := rfl
  simp only [readOpened, deepest]
  split_ifs
  · rfl
  · exact close_at (s.past c .operand) _ maker []
  · rfl
  · exact readOperand_at { s with frames := .items maker [] s.left :: s.frames, left := none } _ c

/-- Behind a sum, a character is read alike at every offset. -/
theorem readAfterSum_at (v : Value) (c : Char) :
    ((s.at offset).readAfterSum v c).unplaced = (s.readAfterSum v c).unplaced := by
  obtain ⟨start, frames, left, focus⟩ := s
  cases frames with
  | nil => rfl
  | cons frame frames =>
    cases frame with
    | items maker done left =>
      simp only [readAfterSum, State.at]
      split_ifs
      · rfl
      · exact close_at ⟨start + c.utf8Size, frames, left, .operand⟩ _ maker _
      · rfl
    | index v left =>
      simp only [readAfterSum, State.at]
      split_ifs
      · exact closeIndex_at ⟨start + c.utf8Size, frames, left, .operand⟩ _ _ _
      · rfl

/-- Behind a term, a character is read alike at every offset. -/
theorem readAfterTerm_at (v : Value) (c : Char) :
    ((s.at offset).readAfterTerm base v c).unplaced = (s.readAfterTerm base v c).unplaced := by
  simp only [readAfterTerm]
  split_ifs
  · rfl
  · simp only [openIndex]
    have deepest : ((s.at offset).past c .operand).isDeepest base =
        (s.past c .operand).isDeepest base := rfl
    rw [deepest]
    split_ifs <;> rfl
  · have sum : total (s.at offset).left v = total s.left v := rfl
    rw [sum]
    cases total s.left v with
    | error problem => rfl
    | ok w => rfl
  · have sum : total (s.at offset).left v = total s.left v := rfl
    rw [sum]
    cases total s.left v with
    | error problem => rfl
    | ok w => exact readAfterSum_at s offset w c

/-- Behind a name, a character is read alike at every offset. -/
theorem readAfterName_at (f : Builtin) (c : Char) :
    ((s.at offset).readAfterName base f c).unplaced = (s.readAfterName base f c).unplaced := by
  simp only [readAfterName]
  split_ifs
  · rfl
  · rfl
  · exact readAfterTerm_at base s offset (.builtin f) c

/-- One step is alike at every offset. -/
theorem read_at (c : Char) : ((s.at offset).read base c).unplaced = (s.read base c).unplaced := by
  obtain ⟨start, frames, left, focus⟩ := s
  cases focus with
  | operand => exact readOperand_at _ offset c
  | opened maker => exact readOpened_at base _ offset maker c
  | word letters =>
    simp only [read, readInWord, State.at]
    split_ifs
    · rfl
    · cases named letters with
      | ok f => exact readAfterName_at base ⟨start, frames, left, .word letters⟩ offset f c
      | error problem => rfl
  | name f => exact readAfterName_at base _ offset f c
  | term v => exact readAfterTerm_at base _ offset v c

/-- A source ends alike at every offset behind a term. -/
theorem finishTerm_at (v : Value) :
    placeless ((s.at offset).finishTerm v) = placeless (s.finishTerm v) := by
  obtain ⟨start, frames, left, focus⟩ := s
  simp only [finishTerm, State.at]
  cases total left v with
  | error problem => rfl
  | ok w => rcases frames with _ | ⟨_ | _, _⟩ <;> rfl

/-- The end of the source is alike at every offset. -/
theorem finish_at :
    placeless ((s.at offset).finish base) = placeless (s.finish base) := by
  obtain ⟨start, frames, left, focus⟩ := s
  cases focus with
  | operand => rfl
  | opened maker => rfl
  | word letters =>
    simp only [finish, State.at]
    cases named letters with
    | ok f => exact finishTerm_at ⟨start, frames, left, .word letters⟩ offset (.builtin f)
    | error problem => rfl
  | name f => exact finishTerm_at ⟨start, frames, left, .name f⟩ offset (.builtin f)
  | term v => exact finishTerm_at ⟨start, frames, left, .term v⟩ offset v

end State

namespace Status

variable (base : Nat)

/-- A step forgets no more if the offsets are forgotten before it. -/
theorem read_unplaced (status : Status) (c : Char) :
    (status.unplaced.read base c).unplaced = (status.read base c).unplaced := by
  cases status with
  | reading s => exact s.read_at base 0 c
  | ended v offset => rfl
  | failed offset problem => cases problem <;> rfl

/-- The end of the source is alike if the offsets are forgotten before it. -/
theorem finish_unplaced (status : Status) :
    placeless (status.unplaced.finish base) = placeless (status.finish base) := by
  cases status with
  | reading s => exact s.finish_at base 0
  | ended v offset => rfl
  | failed offset problem => cases problem <;> rfl

end Status

/-- Machines that are equal but for their offsets read on alike. -/
theorem read_congr (base : Nat) {a b : Status} (h : a.unplaced = b.unplaced) (cs : List Char) :
    (read base a cs).unplaced = (read base b cs).unplaced := by
  induction cs generalizing a b with
  | nil => exact h
  | cons c cs ih =>
    refine ih ?_
    rw [← Status.read_unplaced, h, Status.read_unplaced]

/-- Machines that are equal but for their offsets end alike. -/
theorem finish_congr (base : Nat) {a b : Status} (h : a.unplaced = b.unplaced) :
    placeless (a.finish base) = placeless (b.finish base) := by
  rw [← Status.finish_unplaced, h, Status.finish_unplaced]

end Reader

end Lipogram
