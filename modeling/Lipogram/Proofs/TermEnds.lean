import Lipogram.Proofs.TwoPhases

/-!
# Ends of terms

What happens behind a term: at the end of the source and at a character that no term goes on with.
A word that is still being read, a name and any other term are alike there. The sum up to the term
decides first (`finish_of_sum`, `read_of_sum`), and then the open brackets.
-/

set_option autoImplicit false

namespace Lipogram

/-- The malformations that are met only where a source ends. -/
inductive Malformation.IsAtEnd : Malformation → Prop where
  | unexpectedEnd : IsAtEnd .unexpectedEnd
  | unclosed (closer : Char) : IsAtEnd (.unclosed closer)

namespace Reader

/-! ## Behind a term -/

/-- The character that closes a bracket. -/
def Frame.closer : Frame → Char
  | items maker _ _ => maker.closer
  | index _ _ => ']'

/-- A character that ends a term: no subscript, call or name goes on with it. -/
structure EndsTerm (c : Char) : Prop where
  notBlank : Text.isBlank c = false
  endsName : continuesName c = false
  noCall : c ≠ '('
  noIndex : c ≠ '['

/-- The closing character of a list or call ends a term. -/
theorem Maker.closer_endsTerm (maker : Maker) : EndsTerm maker.closer where
  notBlank := maker.blank_closer
  endsName := by cases maker <;> rfl
  noCall := maker.closer_ne (by decide) (by decide)
  noIndex := maker.closer_ne (by decide) (by decide)

/-- The closing character of any bracket ends a term. -/
theorem Frame.closer_endsTerm (frame : Frame) : EndsTerm frame.closer := by
  cases frame with
  | items maker done left => exact maker.closer_endsTerm
  | index base left => exact Maker.list.closer_endsTerm

/-- No bracket closes with a plus sign. -/
theorem Frame.closer_ne_plus (frame : Frame) : frame.closer ≠ '+' := by
  cases frame with
  | items maker done left => exact maker.closer_ne (by decide) (by decide)
  | index base left => exact Maker.list.closer_ne (by decide) (by decide)

/-- A plus sign ends a term. -/
theorem plus_endsTerm : EndsTerm '+' := ⟨rfl, rfl, by decide, by decide⟩

namespace State

variable {s : State} {x : Except Problem Value} {c : Char}

/-- The sum up to the term that was read last, where a term was read last. -/
def sum? (s : State) : Option (Except Problem Value) :=
  match s.focus with
  | .operand => none
  | .opened _ => none
  | .word letters => some ((named letters).bind (fun f => total s.left (.builtin f)))
  | .name f => some (total s.left (.builtin f))
  | .term v => some (total s.left v)

/-- The end of the source behind a sum. -/
def finishSum (s : State) (sum : Value) : Except Problem Value :=
  match s.frames with
  | [] => .ok sum
  | frame :: _ => .error (.malformed s.offset (.unclosed frame.closer))

/-- The sum up to the last term is no malformation. -/
theorem sum_semantic (h : s.sum? = some x) : WellFormed x := by
  obtain ⟨offset, frames, left, focus⟩ := s
  cases focus with
  | operand => simp [sum?] at h
  | opened maker => simp [sum?] at h
  | word letters =>
    obtain rfl := Option.some.inj h
    exact (named_semantic letters).bind (fun f _ => total_semantic left (.builtin f))
  | name f =>
    obtain rfl := Option.some.inj h
    exact total_semantic left (.builtin f)
  | term v =>
    obtain rfl := Option.some.inj h
    exact total_semantic left v

/-- At the end of the source the sum is completed before the open brackets are looked at. -/
theorem finishTerm_eq (s : State) (v : Value) :
    s.finishTerm v = (total s.left v).bind s.finishSum := by
  unfold finishTerm finishSum
  cases total s.left v with
  | error problem => rfl
  | ok sum => rcases s.frames with _ | ⟨_ | _, _⟩ <;> rfl

/-- Where a source ends behind a term, its sum decides the outcome first, and then the brackets. -/
theorem finish_of_sum (h : s.sum? = some x) : s.finish 0 = x.bind s.finishSum := by
  obtain ⟨offset, frames, left, focus⟩ := s
  cases focus with
  | operand => simp [sum?] at h
  | opened maker => simp [sum?] at h
  | word letters =>
    obtain rfl := Option.some.inj h
    simp only [finish, bind_bind]
    cases named letters with
    | error problem => rfl
    | ok f => exact finishTerm_eq _ (.builtin f)
  | name f =>
    obtain rfl := Option.some.inj h
    exact finishTerm_eq _ (.builtin f)
  | term v =>
    obtain rfl := Option.some.inj h
    exact finishTerm_eq _ v

/-- Where a source ends in front of a term, the outcome is a malformation. -/
theorem finish_of_no_sum (h : s.sum? = none) :
    s.finish 0 = .error (.malformed s.offset .unexpectedEnd) ∨
      s.finish 0 = .error (.malformed s.offset .nestedTooDeeply) := by
  obtain ⟨offset, frames, left, focus⟩ := s
  cases focus with
  | operand => exact .inl rfl
  | opened maker =>
    simp only [finish]
    split_ifs
    · exact .inr rfl
    · exact .inl rfl
  | _ => simp [sum?] at h

/-- What a machine does at a character that ends a term. -/
def readSum (s : State) (c : Char) : Except Problem Value → Status
  | .error problem => .failed s.offset problem
  | .ok sum => if c = '+' then .reading { s.past c .operand with left := some sum }
    else s.readAfterSum sum c

/-- So it is at a character that ends a term. -/
theorem readAfterTerm_eq (s : State) (v : Value) (ends : EndsTerm c) :
    s.readAfterTerm 0 v c = s.readSum c (total s.left v) := by
  simp only [readAfterTerm, ends.notBlank, ends.noIndex, Bool.false_eq_true, if_false]
  cases total s.left v <;> rfl

/-- So it is at a character that ends a name. -/
theorem readAfterName_eq (s : State) (f : Builtin) (ends : EndsTerm c) :
    s.readAfterName 0 f c = s.readSum c (total s.left (.builtin f)) := by
  simp only [readAfterName, ends.notBlank, ends.noCall, Bool.false_eq_true, if_false]
  exact s.readAfterTerm_eq (.builtin f) ends

/-- A term, be it a name or a word that is not at its end yet, is ended by the same characters. -/
theorem read_of_sum (h : s.sum? = some x) (ends : EndsTerm c) : s.read 0 c = s.readSum c x := by
  obtain ⟨offset, frames, left, focus⟩ := s
  cases focus with
  | operand => simp [sum?] at h
  | opened maker => simp [sum?] at h
  | word letters =>
    obtain rfl := Option.some.inj h
    simp only [read, readInWord, ends.endsName, Bool.false_eq_true, if_false]
    cases named letters with
    | error problem => rfl
    | ok f => exact readAfterName_eq _ f ends
  | name f =>
    obtain rfl := Option.some.inj h
    exact readAfterName_eq _ f ends
  | term v =>
    obtain rfl := Option.some.inj h
    exact readAfterTerm_eq _ v ends

/-- The end of a source is a problem of the sum up to there, or a malformation that only the end
can show, or the nesting that the next character would make too deep. -/
theorem finish_cases (s : State) :
    (∃ problem, s.sum? = some (.error problem) ∧ s.finish 0 = .error problem ∧
      problem.IsSemantic) ∨
    (∃ sum, s.sum? = some (.ok sum) ∧ s.frames = [] ∧ s.finish 0 = .ok sum) ∨
    ∃ fault : Malformation, s.finish 0 = .error (.malformed s.offset fault) ∧
      (fault.IsAtEnd ∨ fault = .nestedTooDeeply) := by
  cases found : s.sum? with
  | none =>
    right; right
    rcases finish_of_no_sum found with ends | ends
    · exact ⟨_, ends, .inl .unexpectedEnd⟩
    · exact ⟨_, ends, .inr rfl⟩
  | some x =>
    have ends := finish_of_sum found
    cases x with
    | error problem => exact .inl ⟨problem, rfl, ends, sum_semantic found⟩
    | ok sum =>
      right
      rw [ok_bind, finishSum] at ends
      cases frames : s.frames with
      | nil =>
        rw [frames] at ends
        exact .inl ⟨sum, rfl, rfl, ends⟩
      | cons frame rest =>
        rw [frames] at ends
        exact .inr ⟨_, ends, .inl (.unclosed frame.closer)⟩

end State

/-- An operand must come behind a plus sign, so no source ends there. -/
theorem finish_read_plus (status : Status) (v : Value) : (status.read 0 '+').finish 0 ≠ .ok v := by
  cases status with
  | ended w offset => simp [Status.read, Status.finish]
  | failed offset problem => simp [Status.read, Status.finish]
  | reading s =>
    have no_blank : Text.isBlank '+' = false := rfl
    have no_letter : startsName '+' = false := rfl
    show (s.read 0 '+').finish 0 ≠ .ok v
    cases found : s.sum? with
    | some x =>
      rw [State.read_of_sum found plus_endsTerm]
      cases x <;> simp [State.readSum, State.past, Status.finish, State.finish]
    | none =>
      have fails (s : State) : (s.readOperand '+').finish 0 ≠ .ok v := by
        simp [State.readOperand, no_blank, no_letter, Status.finish]
      obtain ⟨offset, frames, left, focus⟩ := s
      cases focus with
      | operand => exact fails _
      | opened maker =>
        have no_closer : '+' ≠ maker.closer := (maker.closer_ne (by decide) (by decide)).symm
        simp only [State.read, State.readOpened, no_blank, no_closer, Bool.false_eq_true, if_false]
        split_ifs
        · simp [Status.finish]
        · exact fails _
      | _ => simp [State.sum?] at found

end Reader

end Lipogram
