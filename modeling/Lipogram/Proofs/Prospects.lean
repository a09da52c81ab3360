import Lipogram.Proofs.TermEnds
import Mathlib.Data.String.Basic

/-!
# Prospects of the machine

What the machine comes to with the characters that are left, from each of the places where it can
stand, whatever brackets are open around it. A prospect stays what it is while the machine reads on,
so each lemma moves the place a little further, or ends in a problem.
-/

set_option autoImplicit false

namespace Lipogram.Reader

/-- What the machine comes to with the characters that are left. -/
def Status.outcome (status : Status) (rest : List Char) : Except Problem Value :=
  (Reader.read 0 status rest).finish 0

/-- A machine that has failed has its problem for the outcome. -/
theorem outcome_failed (offset : Nat) (problem : Problem) (rest : List Char) :
    (Status.failed offset problem).outcome rest = .error problem := by
  have stopped : (Status.failed offset problem).Stopped := trivial
  rw [Status.outcome, read_of_stopped stopped]
  rfl

/-- A machine inside as many brackets as there may be: one more would be too deep. -/
theorem isDeepest_eq (s : State) :
    s.isDeepest 0 = decide (deepestLevel < s.frames.length + 1) := by
  unfold State.isDeepest
  rw [decide_eq_decide]
  omega

/-- The machine where an expression begins inside of some brackets. -/
def Status.enter (offset : Nat) (frames : List Frame) : Status :=
  if deepestLevel < frames.length then .failed offset (.malformed offset .nestedTooDeeply)
  else .reading ⟨offset, frames, none, .operand⟩

/-- What the machine comes to, with given brackets around it and a given sum to its left. -/
def Prospect := List Frame → Option Value → Except Problem Value

namespace Prospect

/-! ## Places -/

/-- In front of an expression. -/
def ofExpr (p : Nat) (rest : List Char) : Prospect :=
  fun frames _ => (Status.enter p frames).outcome rest

/-- With something that has just been read, to the right of the sum. -/
def ofFocus (focus : Focus) (p : Nat) (rest : List Char) : Prospect :=
  fun frames left => (Status.reading ⟨p, frames, left, focus⟩).outcome rest

/-- To the right of a sum. -/
def beside (prospect : Prospect) (left : Option Value) : Prospect :=
  fun frames _ => prospect frames left

/-- Behind a sum. -/
def ofSum (sum : Value) (p : Nat) (rest : List Char) : Prospect :=
  (ofFocus (.term sum) p rest).beside none

/-- Behind a bracket that has closed around some items. -/
def ofMade (maker : Maker) (all : List Value) (p : Nat) (rest : List Char) : Prospect :=
  fun frames left => (maker.make all).bind (fun v => ofFocus (.term v) p rest frames left)

/-- One bracket further inside. -/
def inside (prospect : Prospect) (frame : Option Value → Frame) : Prospect :=
  fun frames left => prospect (frame left :: frames) none

/-- A problem that is met in any case. -/
def problem (cause : Problem) : Prospect :=
  fun _ _ => .error cause

/-- A prospect behind the outcome of an operation. -/
def ofOutcome (x : Except Problem Value) (next : Value → Prospect) : Prospect :=
  fun frames left => x.bind (fun v => next v frames left)

/-! ## Ends of words, terms and sums -/

/-- No name goes on. -/
def EndsName (rest : List Char) : Prop :=
  ∀ c ∈ rest.head?, continuesName c = false

/-- No term goes on. -/
def EndsTerm (rest : List Char) : Prop :=
  ∀ c ∈ rest.head?, Text.isBlank c = false ∧ c ≠ '['

/-- No sum goes on. -/
def EndsSum (rest : List Char) : Prop :=
  ∀ c ∈ rest.head?, Text.isBlank c = false ∧ c ≠ '[' ∧ c ≠ '+'

section

variable {p : Nat} {rest : List Char} {c : Char}

/-- What ends a sum ends its last term. -/
theorem EndsSum.endsTerm (ends : EndsSum rest) : EndsTerm rest := by
  intro c first
  obtain ⟨notBlank, noIndex, -⟩ := ends c first
  exact ⟨notBlank, noIndex⟩

/-- Where a term has ended there are no blanks. -/
theorem EndsTerm.no_blanks (ends : EndsTerm rest) :
    rest.takeWhile Text.isBlank = [] ∧ rest.dropWhile Text.isBlank = rest := by
  cases rest with
  | nil => exact ⟨rfl, rfl⟩
  | cons c rest =>
    obtain ⟨notBlank, -⟩ := ends c rfl
    simp [notBlank]

/-! ## Blanks -/

/-- Blanks are skipped everywhere but behind a letter. -/
theorem ofFocus_blanks {focus : Focus} (no_word : ∀ letters, focus ≠ .word letters) :
    ofFocus focus p rest =
      ofFocus focus (p + String.utf8Len (rest.takeWhile Text.isBlank))
        (rest.dropWhile Text.isBlank) := by
  funext frames left
  induction rest generalizing p with
  | nil => rfl
  | cons c rest ih =>
    cases blank : Text.isBlank c with
    | false => simp [blank]
    | true =>
      have step : (Status.reading ⟨p, frames, left, focus⟩).read 0 c =
          .reading ⟨p + c.utf8Size, frames, left, focus⟩ := by
        cases focus with
        | word letters => exact absurd rfl (no_word letters)
        | operand => simp [Status.read, State.read, State.readOperand, blank, State.past]
        | opened maker => simp [Status.read, State.read, State.readOpened, blank, State.past]
        | name f => simp [Status.read, State.read, State.readAfterName, blank, State.past]
        | term v => simp [Status.read, State.read, State.readAfterTerm, blank, State.past]
      have reads : ofFocus focus p (c :: rest) frames left =
          ofFocus focus (p + c.utf8Size) rest frames left := by
        show ((Status.reading ⟨p, frames, left, focus⟩).read 0 c).outcome rest = _
        rw [step]
        rfl
      rw [reads, ih, List.takeWhile_cons_of_pos blank, List.dropWhile_cons_of_pos blank,
        String.utf8Len_cons]
      congr 1
      omega

/-! ## Names -/

/-- The letters of a name are read up to its end. -/
theorem in_word (letters : List Char) :
    ofFocus (.word letters) p rest =
      ofFocus (.word ((rest.takeWhile continuesName).reverse ++ letters))
        (p + String.utf8Len (rest.takeWhile continuesName)) (rest.dropWhile continuesName) := by
  funext frames left
  induction rest generalizing p letters with
  | nil => rfl
  | cons c rest ih =>
    cases continues : continuesName c with
    | false => simp [continues]
    | true =>
      have reads : ofFocus (.word letters) p (c :: rest) frames left =
          ofFocus (.word (c :: letters)) (p + c.utf8Size) rest frames left := by
        show ((Status.reading ⟨p, frames, left, .word letters⟩).read 0 c).outcome rest = _
        simp only [Status.read, State.read, State.readInWord, continues, if_true]
        rfl
      rw [reads, ih, List.takeWhile_cons_of_pos continues, List.dropWhile_cons_of_pos continues,
        String.utf8Len_cons, List.reverse_cons, List.append_assoc]
      congr 1
      omega

/-- At its end a name is looked up. -/
theorem word_ends (letters : List Char) (ends : EndsName rest) :
    ofFocus (.word letters) p rest =
      match Builtin.ofName? (String.ofList letters.reverse) with
      | none => problem (.unknownName (String.ofList letters.reverse))
      | some f => ofFocus (.name f) p rest := by
  funext frames left
  have named : State.named letters =
      match Builtin.ofName? (String.ofList letters.reverse) with
      | none => .error (.unknownName (String.ofList letters.reverse))
      | some f => .ok f := by
    simp only [State.named]
    cases Builtin.ofName? (String.ofList letters.reverse) <;> rfl
  cases rest with
  | nil =>
    show (State.finish 0 ⟨p, frames, left, .word letters⟩) = _
    simp only [State.finish, named]
    cases Builtin.ofName? (String.ofList letters.reverse) <;> rfl
  | cons c rest =>
    show ((Status.reading ⟨p, frames, left, .word letters⟩).read 0 c).outcome rest = _
    simp only [Status.read, State.read, State.readInWord, ends c rfl, named, Bool.false_eq_true,
      if_false]
    cases Builtin.ofName? (String.ofList letters.reverse) with
    | none => exact outcome_failed p _ rest
    | some f => rfl

/-- A name that begins is read to its end and looked up. -/
theorem name_begins (starts : startsName c = true) :
    ofFocus .operand p (c :: rest) =
      match Builtin.ofName? (String.ofList ((c :: rest).takeWhile continuesName)) with
      | none => problem (.unknownName (String.ofList ((c :: rest).takeWhile continuesName)))
      | some f => ofFocus (.name f) (p + String.utf8Len ((c :: rest).takeWhile continuesName))
          ((c :: rest).dropWhile continuesName) := by
  have continues := continues_of_starts starts
  have notBlank := blank_eq_false_of_starts starts
  have bracket : c ≠ '[' := by
    rintro rfl
    simp [startsName] at starts
  have begins : ofFocus .operand p (c :: rest) = ofFocus (.word [c]) (p + c.utf8Size) rest := by
    funext frames left
    show ((Status.reading ⟨p, frames, left, .operand⟩).read 0 c).outcome rest = _
    simp only [Status.read, State.read, State.readOperand, notBlank, bracket, starts,
      Bool.false_eq_true, if_true, if_false]
    rfl
  have ends : EndsName (rest.dropWhile continuesName) := by
    intro d first
    have stops := List.head?_dropWhile_not continuesName rest
    rw [first] at stops
    simpa using stops
  rw [begins, in_word, word_ends _ ends, List.takeWhile_cons_of_pos continues,
    List.dropWhile_cons_of_pos continues, List.reverse_append, List.reverse_reverse,
    String.utf8Len_cons]
  have place : p + c.utf8Size + String.utf8Len (rest.takeWhile continuesName) =
      p + (String.utf8Len (rest.takeWhile continuesName) + c.utf8Size) := by omega
  rw [place]
  rfl

/-- Behind a name, an opening parenthesis makes it a call. -/
theorem name_called (f : Builtin) :
    ofFocus (.name f) p ('(' :: rest) = ofFocus (.opened (.call f)) (p + '('.utf8Size) rest := rfl

/-- A name that is not called is a term. -/
theorem name_not_called (f : Builtin) (notBlank : ∀ c ∈ rest.head?, Text.isBlank c = false)
    (noCall : rest.head? ≠ some '(') :
    ofFocus (.name f) p rest = ofFocus (.term (.builtin f)) p rest := by
  funext frames left
  cases rest with
  | nil => rfl
  | cons c rest =>
    have no_parenthesis : c ≠ '(' := by simpa using noCall
    show ((Status.reading ⟨p, frames, left, .name f⟩).read 0 c).outcome rest = _
    simp only [Status.read, State.read, State.readAfterName, notBlank c rfl, no_parenthesis,
      Bool.false_eq_true, if_false]
    rfl

/-! ## Operands -/

/-- Where an operand must begin, the source must not end. -/
theorem operand_ends : ofFocus .operand p [] = problem (.malformed p .unexpectedEnd) := rfl

/-- An operand may be a list that opens. -/
theorem list_opens :
    ofFocus .operand p ('[' :: rest) = ofFocus (.opened .list) (p + '['.utf8Size) rest := rfl

/-- No other character begins an operand. -/
theorem operand_unexpected (notBlank : Text.isBlank c = false) (noList : c ≠ '[')
    (noName : startsName c = false) :
    ofFocus .operand p (c :: rest) = problem (.malformed p (.unexpected c)) := by
  funext frames left
  show ((Status.reading ⟨p, frames, left, .operand⟩).read 0 c).outcome rest = _
  simp only [Status.read, State.read, State.readOperand, notBlank, noList, noName,
    Bool.false_eq_true, if_false]
  exact outcome_failed p _ rest

/-- An expression that does not stand too deep begins with an operand. -/
theorem expr_begins {frames : List Frame} (shallow : frames.length ≤ deepestLevel)
    (left : Option Value) :
    ofExpr p rest frames left = ofFocus .operand p rest frames none := by
  unfold ofExpr Status.enter
  rw [if_neg (by omega)]
  rfl

/-- An expression inside too many brackets is too deep. -/
theorem ofExpr_tooDeep {frames : List Frame} (deep : deepestLevel < frames.length)
    (left : Option Value) :
    ofExpr p rest frames left = .error (.malformed p .nestedTooDeeply) := by
  unfold ofExpr Status.enter
  rw [if_pos deep]
  exact outcome_failed p _ rest

/-! ## Brackets that open and close -/

variable (maker : Maker) (done : List Value) (v : Value)

/-- A bracket with nothing in it closes. -/
theorem closes_empty :
    ofFocus (.opened maker) p (maker.closer :: rest) =
      ofMade maker [] (p + maker.closer.utf8Size) rest := by
  funext frames left
  show ((Status.reading ⟨p, frames, left, .opened maker⟩).read 0 maker.closer).outcome rest = _
  simp only [Status.read, State.read, State.readOpened, maker.blank_closer, Bool.false_eq_true,
    if_true, if_false, State.close, State.past, ofMade]
  cases maker.make [] with
  | ok w => rfl
  | error cause => exact outcome_failed _ cause rest

/-- The first item of a bracket begins. -/
theorem first_item (notBlank : ∀ c ∈ rest.head?, Text.isBlank c = false)
    (noCloser : rest.head? ≠ some maker.closer) :
    ofFocus (.opened maker) p rest = (ofExpr p rest).inside (.items maker []) := by
  funext frames left
  cases rest with
  | nil =>
    show State.finish 0 ⟨p, frames, left, .opened maker⟩ = _
    simp only [State.finish, isDeepest_eq, decide_eq_true_eq, inside, ofExpr, Status.enter,
      List.length_cons]
    split_ifs <;> rfl
  | cons c rest =>
    have no_closer : c ≠ maker.closer := by simpa using noCloser
    show ((Status.reading ⟨p, frames, left, .opened maker⟩).read 0 c).outcome rest = _
    simp only [Status.read, State.read, State.readOpened, notBlank c rfl, no_closer, isDeepest_eq,
      decide_eq_true_eq, Bool.false_eq_true, if_false, inside, ofExpr, Status.enter,
      List.length_cons]
    split_ifs
    · rw [outcome_failed, outcome_failed]
    · rfl

/-- A subscript opens. -/
theorem index_opens :
    ofFocus (.term v) p ('[' :: rest) = (ofExpr (p + '['.utf8Size) rest).inside (.index v) := by
  funext frames left
  have blank : Text.isBlank '[' = false := rfl
  show ((Status.reading ⟨p, frames, left, .term v⟩).read 0 '[').outcome rest = _
  simp only [Status.read, State.read, State.readAfterTerm, blank, Bool.false_eq_true, if_true,
    if_false, State.openIndex, State.past, isDeepest_eq, decide_eq_true_eq, inside, ofExpr,
    Status.enter, List.length_cons]

/-! ## Sums -/

/-- Behind a plus sign the sum goes on. -/
theorem plus_follows :
    ofSum v p ('+' :: rest) = (ofFocus .operand (p + '+'.utf8Size) rest).beside (some v) := rfl

/-- Where a term ends it is added to what stands to the left of it. -/
theorem term_added (sum : Value) (ends : EndsTerm rest) :
    (ofFocus (.term v) p rest).beside (some sum) =
      ofOutcome (sum.add v) (fun w => ofSum w p rest) := by
  funext frames _
  cases rest with
  | nil =>
    show State.finishTerm ⟨p, frames, some sum, .term v⟩ v = _
    simp only [State.finishTerm, total, ofOutcome]
    cases sum.add v <;> rfl
  | cons c rest =>
    obtain ⟨notBlank, noIndex⟩ := ends c rfl
    show ((Status.reading ⟨p, frames, some sum, .term v⟩).read 0 c).outcome rest = _
    simp only [Status.read, State.read, State.readAfterTerm, notBlank, noIndex, total, ofOutcome,
      Bool.false_eq_true, if_false]
    cases sum.add v with
    | error cause => exact outcome_failed p cause rest
    | ok w =>
      show _ = ((Status.reading ⟨p, frames, none, .term w⟩).read 0 c).outcome rest
      simp only [Status.read, State.read, State.readAfterTerm, notBlank, noIndex, total,
        Bool.false_eq_true, if_false]
      rfl

end

/-! ## Ends of expressions -/

section

variable {p : Nat} {rest : List Char} {c : Char} (maker : Maker) (done : List Value) (v : Value)

/-- Behind an expression the machine goes on in the bracket around it. -/
theorem sum_ends (ends : EndsSum (c :: rest)) (frames : List Frame) :
    ofFocus (.term v) p (c :: rest) frames none =
      (State.readAfterSum ⟨p, frames, none, .term v⟩ v c).outcome rest := by
  obtain ⟨notBlank, noIndex, noPlus⟩ := ends c rfl
  show ((Status.reading ⟨p, frames, none, .term v⟩).read 0 c).outcome rest = _
  simp only [Status.read, State.read, State.readAfterTerm, notBlank, noIndex, noPlus, total,
    Bool.false_eq_true, if_false]

/-- Behind an item the source must not end. -/
theorem items_unclosed :
    (ofSum v p []).inside (.items maker done) =
      problem (.malformed p (.unclosed maker.closer)) := rfl

/-- Behind a comma comes the next item. -/
theorem inside_comma :
    (ofSum v p (',' :: rest)).inside (.items maker done) = fun frames left =>
      ofFocus .operand (p + ','.utf8Size) rest (.items maker (v :: done) left :: frames) none := rfl

/-- Behind the last item its bracket closes. -/
theorem closes_items :
    (ofSum v p (maker.closer :: rest)).inside (.items maker done) =
      ofMade maker (v :: done).reverse (p + maker.closer.utf8Size) rest := by
  funext frames left
  have ends : EndsSum (maker.closer :: rest) := by
    intro c first
    obtain rfl := Option.some.inj first
    exact ⟨maker.blank_closer, maker.closer_ne (by decide) (by decide),
      maker.closer_ne (by decide) (by decide)⟩
  have comma : maker.closer ≠ ',' := maker.closer_ne (by decide) (by decide)
  show ofFocus (.term v) p (maker.closer :: rest) (.items maker done left :: frames) none = _
  rw [sum_ends v ends]
  simp only [State.readAfterSum, comma, if_true, if_false, State.close, State.past, ofMade]
  cases maker.make (v :: done).reverse with
  | ok w => rfl
  | error cause => exact outcome_failed _ cause rest

/-- Nothing else comes behind an item. -/
theorem item_unexpected (ends : EndsSum (c :: rest)) (noComma : c ≠ ',')
    (noCloser : c ≠ maker.closer) :
    (ofSum v p (c :: rest)).inside (.items maker done) =
      problem (.malformed (p + c.utf8Size) (.expected maker.closer true c)) := by
  funext frames left
  show ofFocus (.term v) p (c :: rest) (.items maker done left :: frames) none = _
  rw [sum_ends v ends]
  simp only [State.readAfterSum, noComma, noCloser, if_false]
  exact outcome_failed _ _ rest

/-- Behind an index the source must not end. -/
theorem index_unclosed (base : Value) :
    (ofSum v p []).inside (.index base) = problem (.malformed p (.unclosed ']')) := rfl

/-- Behind an index its bracket closes. -/
theorem closes_index (base : Value) :
    (ofSum v p (']' :: rest)).inside (.index base) =
      ofOutcome (base.pick v) (fun w => ofFocus (.term w) (p + ']'.utf8Size) rest) := by
  funext frames left
  have ends : EndsSum (']' :: rest) := by
    intro c first
    obtain rfl := Option.some.inj first
    exact ⟨rfl, by decide, by decide⟩
  show ofFocus (.term v) p (']' :: rest) (.index base left :: frames) none = _
  rw [sum_ends v ends]
  simp only [State.readAfterSum, if_true, State.closeIndex, State.past, ofOutcome]
  cases base.pick v with
  | ok w => rfl
  | error cause => exact outcome_failed _ cause rest

/-- Nothing else comes behind an index. -/
theorem index_unexpected (base : Value) (ends : EndsSum (c :: rest)) (noCloser : c ≠ ']') :
    (ofSum v p (c :: rest)).inside (.index base) =
      problem (.malformed (p + c.utf8Size) (.expected ']' false c)) := by
  funext frames left
  show ofFocus (.term v) p (c :: rest) (.index base left :: frames) none = _
  rw [sum_ends v ends]
  simp only [State.readAfterSum, noCloser, if_false]
  exact outcome_failed _ _ rest

/-- A source ends behind its expression. -/
theorem source_ends : ofSum v p [] [] none = .ok v := rfl

/-- Behind the expression that a source is, nothing may come. -/
theorem source_goes_on (ends : EndsSum (c :: rest)) :
    ofSum v p (c :: rest) [] none = .error (.malformed p .trailing) := by
  show ofFocus (.term v) p (c :: rest) [] none = _
  rw [sum_ends v ends]
  have stopped : (Status.ended v p).Stopped := trivial
  show (Status.ended v p).outcome rest = _
  rw [Status.outcome, read_of_stopped stopped]
  rfl

end

end Prospect

end Lipogram.Reader
