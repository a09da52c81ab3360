import Lipogram.Proofs.TermEnds

/-!
# Sources that go on

What the outcome of a source says about the sources that begin with it. A problem that an operation
meets is the outcome of all that goes on behind the term (`evaluate_first_problem`). A malformation
stays as well, wherever it was met inside the source; one that was met at the end of the source goes
away when what is open there is closed (`evaluate_malformed_append`).
-/

set_option autoImplicit false

namespace Lipogram

/-- The wording of a malformation tells whether it was met at the end. -/
theorem Malformation.message_at_end {fault : Malformation} :
    (∃ beginning, fault.message = beginning ++ "end of input") ↔ fault.IsAtEnd := by
  constructor
  · rintro ⟨beginning, worded⟩
    have suffix : "end of input".toList <:+ fault.message.toList := by
      rw [worded, String.toList_append]
      exact List.suffix_append _ _
    -- a message that quotes the character found ends in a quote
    have no_quote {start : String} (quoted : fault.message = start ++ "'") : False := by
      have last := congrArg (fun s => s.toList.getLast?) (worded.symm.trans quoted)
      simp at last
    cases fault with
    | nestedTooDeeply => exact absurd suffix (by decide)
    | unexpectedEnd => exact .unexpectedEnd
    | unexpected found =>
      have quoted : (unexpected found).message =
          "unexpected character '" ++ found.toString ++ "'" := by rw [message.eq_def]
      exact (no_quote quoted).elim
    | trailing => exact absurd suffix (by decide)
    | expected closer orComma found =>
      have quoted : (expected closer orComma found).message =
          "expected " ++ (if orComma then "',' or '" else "'") ++ closer.toString ++
            "', found '" ++ found.toString ++ "'" := by rw [message.eq_def]
      exact (no_quote quoted).elim
    | unclosed closer => exact .unclosed closer
  · intro atEnd
    cases atEnd with
    | unexpectedEnd => exact ⟨"unexpected ", rfl⟩
    | unclosed closer =>
      have split_end : "', found end of input" = "', found " ++ "end of input" := by decide
      refine ⟨"expected '" ++ closer.toString ++ "', found ", ?_⟩
      show "expected '" ++ closer.toString ++ "', found end of input" = _
      rw [split_end, ← String.append_assoc]

namespace Reader

/-! ## Problems inside a source -/

/-- A problem that is not met at the end of a source. -/
def IsInside (problem : Problem) : Prop :=
  ∀ offset fault, problem = .malformed offset fault → ¬ fault.IsAtEnd

/-- What is met at a character is no problem of the end of the source. -/
theorem MetAt.isInside {offset : Nat} {c : Char} {problem : Problem}
    (met : MetAt offset c problem) : IsInside problem := by
  intro place fault malformed atEnd
  cases met with
  | operation semantic => exact semantic.ne_malformed place fault malformed
  | _ =>
    obtain ⟨-, rfl⟩ := Problem.malformed.inj malformed
    cases atEnd

/-- A machine that has not met the end of a source: where it has failed, it has failed inside. -/
def Status.IsInside : Status → Prop
  | failed _ problem => Reader.IsInside problem
  | _ => True

/-- Where a step leads is no end of the source. -/
theorem LeadsTo.isInside {offset : Nat} {focus : Focus} {c : Char} {status : Status}
    (h : LeadsTo offset focus c status) : status.IsInside := by
  cases h with
  | failed place met => exact met.isInside
  | _ => trivial

/-- Whatever has been read, no problem so far is one of the end. -/
theorem read_inside {status : Status} (h : status.IsInside) (cs : List Char) :
    (read 0 status cs).IsInside := by
  induction cs generalizing status with
  | nil => exact h
  | cons c cs ih =>
    refine ih ?_
    cases status with
    | reading s => exact (s.read_leadsTo 0 c).isInside
    | ended v offset => trivial
    | failed offset problem => exact h

/-! ## Closing what is open -/

/-- The outcome of an evaluation that has met a problem is that problem. -/
theorem wellFormed_of_failed {offset : Nat} {problem : Problem} (semantic : problem.IsSemantic)
    (cs : List Char) : WellFormed ((read 0 (.failed offset problem) cs).finish 0) := by
  have stopped : (Status.failed offset problem).Stopped := trivial
  rw [read_of_stopped stopped]
  exact semantic

namespace State

/-- A bracket that closes makes a term, or its operation fails. -/
theorem close_cases (s : State) (maker : Maker) (items : List Value) :
    (∃ v, s.close maker items = .reading { s with focus := .term v }) ∨
      ∃ problem, problem.IsSemantic ∧ s.close maker items = .failed s.offset problem := by
  simp only [close]
  cases made : maker.make items with
  | ok v => exact .inl ⟨v, rfl⟩
  | error problem => exact .inr ⟨problem, (make_semantic maker items).of_eq_error made, rfl⟩

/-- The innermost bracket closes behind a sum. -/
theorem read_closer {s : State} {frame : Frame} {frames : List Frame}
    (h : s.frames = frame :: frames) (sum : Value) :
    (∃ s' v, s'.frames = frames ∧ s'.focus = .term v ∧
      s.readAfterSum sum frame.closer = .reading s') ∨
      ∃ offset problem, problem.IsSemantic ∧
        s.readAfterSum sum frame.closer = .failed offset problem := by
  obtain ⟨offset, frames', left, focus⟩ := s
  obtain rfl : frames' = frame :: frames := h
  cases frame with
  | items maker done outer =>
    have comma : maker.closer ≠ ',' := maker.closer_ne (by decide) (by decide)
    simp only [readAfterSum, Frame.closer, comma, if_true, if_false]
    rcases close_cases ⟨offset + maker.closer.utf8Size, frames, outer, .operand⟩ maker
      (sum :: done).reverse with ⟨v, closed⟩ | ⟨problem, semantic, closed⟩
    · exact .inl ⟨_, v, rfl, rfl, closed⟩
    · exact .inr ⟨_, problem, semantic, closed⟩
  | index base outer =>
    simp only [readAfterSum, Frame.closer, if_true, closeIndex]
    cases picked : base.pick sum with
    | ok v => exact .inl ⟨_, v, rfl, rfl, rfl⟩
    | error problem => exact .inr ⟨_, problem, (pick_semantic base sum).of_eq_error picked, rfl⟩

/-- What is missing in front of the closing brackets: an operand, or the end of an empty bracket. -/
def missing (s : State) : List Char :=
  match s.focus with
  | .operand => ['[', ']']
  | .opened maker => [maker.closer]
  | _ => []

/-- A bracket that closes at once makes its value of nothing. -/
theorem read_empty {s : State} {maker : Maker} (opened : s.focus = .opened maker) :
    s.read 0 maker.closer = (s.past maker.closer .operand).close maker [] := by
  simp only [read, opened, readOpened, maker.blank_closer, Bool.false_eq_true, if_true, if_false]

end State

/-- Behind a term, closing all open brackets leads to an outcome that is no malformation. -/
theorem close_frames (frames : List Frame) {s : State} (h : s.frames = frames)
    {x : Except Problem Value} (found : s.sum? = some x) :
    WellFormed ((read 0 (.reading s) (frames.map Frame.closer)).finish 0) := by
  induction frames generalizing s x with
  | nil =>
    show WellFormed (s.finish 0)
    rw [State.finish_of_sum found]
    refine (State.sum_semantic found).bind (fun sum _ => ?_)
    rw [State.finishSum, h]
    trivial
  | cons frame frames ih =>
    have split_read : read 0 (.reading s) ((frame :: frames).map Frame.closer) =
        read 0 (s.read 0 frame.closer) (frames.map Frame.closer) := rfl
    rw [split_read, State.read_of_sum found frame.closer_endsTerm]
    cases x with
    | error problem => exact wellFormed_of_failed (State.sum_semantic found) _
    | ok sum =>
      simp only [State.readSum, frame.closer_ne_plus, if_false]
      rcases State.read_closer h sum with ⟨s', v, rest, term, closed⟩ | ⟨_, _, semantic, failed⟩
      · rw [closed]
        exact ih rest (x := total s'.left v) (by simp [State.sum?, term])
      · rw [failed]
        exact wellFormed_of_failed semantic _

/-- A bracket without items is a term when it has closed. -/
theorem close_empty (s : State) (maker : Maker) :
    WellFormed ((read 0 (s.close maker []) (s.frames.map Frame.closer)).finish 0) := by
  rcases s.close_cases maker [] with ⟨v, closed⟩ | ⟨problem, semantic, failed⟩
  · rw [closed]
    exact close_frames s.frames (s := { s with focus := .term v }) rfl rfl
  · rw [failed]
    exact wellFormed_of_failed semantic _

/-- A machine that still reads can be led to an outcome that is no malformation. -/
theorem complete (s : State) :
    WellFormed ((read 0 (.reading s) (s.missing ++ s.frames.map Frame.closer)).finish 0) := by
  have close_opened (s : State) (maker : Maker) (opened : s.focus = .opened maker) :
      WellFormed ((read 0 (.reading s)
        (maker.closer :: s.frames.map Frame.closer)).finish 0) := by
    have split_read : read 0 (.reading s) (maker.closer :: s.frames.map Frame.closer) =
        read 0 (s.read 0 maker.closer) (s.frames.map Frame.closer) := rfl
    rw [split_read, State.read_empty opened]
    exact close_empty (s.past maker.closer .operand) maker
  obtain ⟨offset, frames, left, focus⟩ := s
  cases focus with
  | operand => exact close_opened ⟨offset + '['.utf8Size, frames, left, .opened .list⟩ .list rfl
  | opened maker => exact close_opened _ maker rfl
  | word letters => exact close_frames frames rfl rfl
  | name f => exact close_frames frames rfl rfl
  | term v => exact close_frames frames rfl rfl

end Reader

/-! ## Sources -/

open Reader

/-- The outcome of two stretches is that of the second, read on from the first. -/
theorem evaluate_append (p w : String) :
    evaluate (p ++ w) = (read 0 (read 0 (.start 0 0) p.toList) w.toList).finish 0 := by
  rw [evaluate, String.toList_append, read_append]

/-- A machine that would end in a problem of an operation fails with it at every character that ends
a term. -/
theorem Reader.read_problem {status : Status} {problem : Problem} {d : Char}
    (h : status.finish 0 = .error problem) (semantic : problem.IsSemantic) (ends : EndsTerm d) :
    ∃ offset, status.read 0 d = .failed offset problem := by
  cases status with
  | ended v offset =>
    obtain rfl := Except.error.inj h
    exact absurd semantic id
  | failed offset other =>
    obtain rfl := Except.error.inj h
    exact ⟨offset, rfl⟩
  | reading s =>
    rcases s.finish_cases with ⟨other, found, ended, -⟩ | ⟨sum, -, -, ended⟩ | ⟨fault, ended, -⟩
    · obtain rfl := Except.error.inj (ended.symm.trans h)
      exact ⟨s.offset, State.read_of_sum found ends⟩
    · simpa using ended.symm.trans h
    · obtain rfl := Except.error.inj (ended.symm.trans h)
      exact absurd semantic id

/-- The first problem wins: a problem that is met in the evaluation of a source stays the outcome of
every source that goes on with a character that ends a term, whatever follows. -/
theorem evaluate_first_problem {p : String} {problem : Problem}
    (met : evaluate p = .error problem) (semantic : problem.IsSemantic) {d : Char}
    (notBlank : Text.isBlank d = false) (endsName : continuesName d = false) (noCall : d ≠ '(')
    (noIndex : d ≠ '[') (w : String) : evaluate (p ++ d.toString ++ w) = .error problem := by
  have ends : EndsTerm d := ⟨notBlank, endsName, noCall, noIndex⟩
  obtain ⟨offset, failed⟩ := read_problem met semantic ends
  have letters : (p ++ d.toString).toList = p.toList ++ [d] := by simp
  have reads : read 0 (.start 0 0) (p ++ d.toString).toList = .failed offset problem := by
    rw [letters, read_append]
    exact failed
  have stopped : (Status.failed offset problem).Stopped := trivial
  rw [evaluate_append, reads, read_of_stopped stopped]
  rfl

/-- A sum of values that cannot be added, with a plus sign and an unknown name behind it. -/
theorem evaluate_first_problem_sum :
    evaluate "str() + len" = .error (.clash (.notAddable "str" "builtin_function_or_method")) ∧
      evaluate "str() + len]x(" =
        .error (.clash (.notAddable "str" "builtin_function_or_method")) := by
  have met : evaluate "str() + len" =
      .error (.clash (.notAddable "str" "builtin_function_or_method")) := by rfl
  exact ⟨met, evaluate_first_problem met trivial (d := ']') rfl rfl (by decide) (by decide) "x("⟩

/-- A machine that has stopped has stopped inside the source: one that ends in a malformation of the
end still reads. -/
theorem Reader.reading_of_at_end {status : Status} {offset : Nat} {fault : Malformation}
    (inside : status.IsInside) (h : status.finish 0 = .error (.malformed offset fault))
    (atEnd : fault.IsAtEnd) : ∃ s, status = .reading s := by
  cases status with
  | reading s => exact ⟨s, rfl⟩
  | ended v place =>
    obtain ⟨-, rfl⟩ := Problem.malformed.inj (Except.error.inj h)
    cases atEnd
  | failed place problem => exact absurd atEnd (inside offset fault (Except.error.inj h))

/-- A machine that still reads ends in no other malformations than those of the end and a nesting
that is too deep. -/
theorem Reader.stopped_of_not_at_end {status : Status} {offset : Nat} {fault : Malformation}
    (h : status.finish 0 = .error (.malformed offset fault)) (notAtEnd : ¬fault.IsAtEnd)
    (notNested : fault ≠ .nestedTooDeeply) : status.Stopped := by
  cases status with
  | ended v place => trivial
  | failed place problem => trivial
  | reading s =>
    rcases s.finish_cases with ⟨problem, -, ended, semantic⟩ | ⟨sum, -, -, ended⟩ |
      ⟨other, ended, cause⟩
    · exact absurd (Except.error.inj (ended.symm.trans h)) (semantic.ne_malformed offset fault)
    · simpa using ended.symm.trans h
    · obtain ⟨-, rfl⟩ := Problem.malformed.inj (Except.error.inj (ended.symm.trans h))
      rcases cause with atEnd | nested
      · exact absurd atEnd notAtEnd
      · exact absurd nested notNested

/-- A malformation of a source that is met at its end goes away in some source that goes on from
there; and one that is met before the end, unless it is a nesting that is too deep, stays in all
sources that go on. -/
theorem evaluate_malformed_append {p : String} {offset : Nat} {fault : Malformation}
    (met : evaluate p = .error (.malformed offset fault)) :
    ((∃ beginning, fault.message = beginning ++ "end of input") →
      ∃ w, ∀ place other, evaluate (p ++ w) ≠ .error (.malformed place other)) ∧
    ((¬∃ beginning, fault.message = beginning ++ "end of input") →
      fault.message ≠ "expression nested too deeply" →
      ∀ w, evaluate (p ++ w) = .error (.malformed offset fault)) := by
  have finished : (read 0 (.start 0 0) p.toList).finish 0 = .error (.malformed offset fault) := met
  rw [Malformation.message_at_end]
  constructor
  · intro atEnd
    have start : (Status.start 0 0).IsInside := by
      simp [Status.start, Status.IsInside, deepestLevel]
    have inside := read_inside start p.toList
    obtain ⟨s, reached⟩ := reading_of_at_end inside finished atEnd
    refine ⟨String.ofList (s.missing ++ s.frames.map Frame.closer), ?_⟩
    rw [evaluate_append, reached, String.toList_ofList]
    exact (complete s).ne_malformed
  · intro notAtEnd worded w
    have notNested : fault ≠ .nestedTooDeeply := by
      rintro rfl
      exact worded rfl
    have stopped := stopped_of_not_at_end finished notAtEnd notNested
    rw [evaluate_append, read_of_stopped stopped, finished]

/-- A list that is not closed, and a list that is closed by the wrong bracket. -/
theorem evaluate_malformed_append_bracket :
    (evaluate "[len" = .error (.malformed 4 (.unclosed ']')) ∧
      ∃ w, ∀ place other, evaluate ("[len" ++ w) ≠ .error (.malformed place other)) ∧
    evaluate "[len)" = .error (.malformed 5 (.expected ']' true ')')) ∧
      evaluate "[len)]+" = .error (.malformed 5 (.expected ']' true ')')) := by
  have unclosed : evaluate "[len" = .error (.malformed 4 (.unclosed ']')) := by rfl
  have wrong : evaluate "[len)" = .error (.malformed 5 (.expected ']' true ')')) := by rfl
  have inside : ¬∃ beginning,
      (Malformation.expected ']' true ')').message = beginning ++ "end of input" := by
    rw [Malformation.message_at_end]
    rintro ⟨⟩
  refine ⟨⟨unclosed, (evaluate_malformed_append unclosed).1 ?_⟩, wrong, ?_⟩
  · exact ⟨"expected ']', found ", by decide⟩
  · exact (evaluate_malformed_append wrong).2 inside (by decide) "]+"

end Lipogram
