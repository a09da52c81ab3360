import Lipogram.Proofs.Operations
import Mathlib.Tactic.SplitIfs

/-!
# Steps of the machine

What one character can do to the machine (`State.read_follows`): where it stands then and which
values it holds, what stops it, and with which problems. Whatever is to be known of all steps is
read off from there.
-/

set_option autoImplicit false

namespace Lipogram.Reader

/-! ## Values that the machine holds -/

/-- A property `P` of values and a property `E` of problems that the operations of the machine carry
from the values that they work on to their outcomes. -/
structure Carried (P : Value → Prop) (E : Problem → Prop) : Prop where
  builtin : ∀ f, P (.builtin f)
  make : ∀ (maker : Maker) items, (∀ v ∈ items, P v) → Lipogram.Holds P E (maker.make items)
  add : ∀ a b, P a → P b → Lipogram.Holds P E (a.add b)
  pick : ∀ base index, P base → P index → Lipogram.Holds P E (base.pick index)

/-- The values that an open bracket holds have a property. -/
def Frame.Holds (P : Value → Prop) : Frame → Prop
  | items _ done left => (∀ v ∈ done, P v) ∧ ∀ v ∈ left, P v
  | index base left => P base ∧ ∀ v ∈ left, P v

/-- The values that the machine holds have a property. -/
structure State.Holds (P : Value → Prop) (s : State) : Prop where
  frames : ∀ frame ∈ s.frames, frame.Holds P
  left : ∀ v ∈ s.left, P v
  term : ∀ v, s.focus = .term v → P v

/-- No operation of the machine meets a malformation. -/
theorem carried_semantic : Carried (fun _ => True) Problem.IsSemantic where
  builtin _ := trivial
  make maker items _ := make_semantic maker items
  add a b _ _ := add_semantic a b
  pick base index _ _ := pick_semantic base index

/-- What every value has the machine holds. -/
theorem State.holds_true (s : State) : s.Holds (fun _ => True) where
  frames frame _ := by cases frame <;> exact ⟨by simp, by simp⟩
  left _ _ := trivial
  term _ _ := trivial

/-- Adding the last term of a sum carries the property. -/
theorem Carried.total_holds {P : Value → Prop} {E : Problem → Prop} (carried : Carried P E)
    {left : Option Value} {v : Value} (left_holds : ∀ u ∈ left, P u) (holds : P v) :
    Lipogram.Holds P E (total left v) := by
  cases left with
  | none => exact holds
  | some sum => exact carried.add sum v (left_holds sum rfl) holds

/-! ## Steps -/

/-- What the character `c` can lead to, which stands at an offset behind what has been read, in a
machine whose values have the property `P`, if operations on them carry it and meet problems with
the property `E`. -/
inductive Follows (P : Value → Prop) (E : Problem → Prop) (offset : Nat) (focus : Focus)
    (c : Char) : Status → Prop where
  | outside {s : State} (holds : s.Holds P) (past : s.offset = offset + c.utf8Size)
    (rest : ∀ letters, s.focus ≠ .word letters)
    (opens : ∀ maker, s.focus = .opened maker →
      c = '[' ∨ c = '(' ∨ Text.isBlank c = true ∧ focus = .opened maker) :
    Follows P E offset focus c (.reading s)
  | begins {s : State} (holds : s.Holds P) (past : s.offset = offset + c.utf8Size)
    (word : s.focus = .word [c]) (starts : startsName c = true) :
    Follows P E offset focus c (.reading s)
  | inside {s : State} {letters : List Char} (holds : s.Holds P)
    (past : s.offset = offset + c.utf8Size) (before : focus = .word letters)
    (word : s.focus = .word (c :: letters)) (continues : continuesName c = true) :
    Follows P E offset focus c (.reading s)
  | ended {v : Value} (holds : P v) (notBlank : Text.isBlank c = false) (noIndex : c ≠ '[')
    (noPlus : c ≠ '+') : Follows P E offset focus c (.ended v offset)
  | operation {problem : Problem} (place : Nat) (met : E problem) :
    Follows P E offset focus c (.failed place problem)
  | unknown {letters : List Char} {problem : Problem} (place : Nat)
    (before : focus = .word letters) (unknown : State.named letters = .error problem) :
    Follows P E offset focus c (.failed place problem)
  | unexpected : Follows P E offset focus c (.failed offset (.malformed offset (.unexpected c)))
  | expected {place : Nat} (closer : Char) (orComma : Bool) (past : place = offset + c.utf8Size) :
    Follows P E offset focus c (.failed place (.malformed place (.expected closer orComma c)))
  | tooDeepItem {maker : Maker} (before : focus = .opened maker) :
    Follows P E offset focus c (.failed offset (.malformed offset .nestedTooDeeply))
  | tooDeepIndex {place : Nat} (bracket : c = '[') (past : place = offset + c.utf8Size) :
    Follows P E offset focus c (.failed place (.malformed place .nestedTooDeeply))

namespace State

variable {P : Value → Prop} {E : Problem → Prop} {s : State} {offset : Nat} {focus : Focus}

/-- The state behind a character holds what the state before it holds, and its focus. -/
theorem Holds.past (holds : s.Holds P) (c : Char) {focus : Focus}
    (term : ∀ v, focus = .term v → P v) : (s.past c focus).Holds P :=
  ⟨holds.frames, holds.left, term⟩

/-- What can follow where a bracket closes. -/
theorem close_follows (carried : Carried P E) (holds : s.Holds P) {maker : Maker}
    {items : List Value} (items_hold : ∀ v ∈ items, P v) {c : Char}
    (past : s.offset = offset + c.utf8Size) :
    Follows P E offset focus c (s.close maker items) := by
  have made := carried.make maker items items_hold
  simp only [close]
  cases outcome : maker.make items with
  | ok v =>
    have holds_value := made.of_eq_ok outcome
    exact .outside ⟨holds.frames, holds.left, by simpa using holds_value⟩ past (by simp) (by simp)
  | error problem => exact .operation _ (made.of_eq_error outcome)

/-- What can follow where a subscript closes. -/
theorem closeIndex_follows (carried : Carried P E) (holds : s.Holds P) {v index : Value}
    (v_holds : P v) (index_holds : P index) {c : Char} (past : s.offset = offset + c.utf8Size) :
    Follows P E offset focus c (s.closeIndex v index) := by
  have picked := carried.pick v index v_holds index_holds
  simp only [closeIndex]
  cases outcome : v.pick index with
  | ok w =>
    have holds_value := picked.of_eq_ok outcome
    exact .outside ⟨holds.frames, holds.left, by simpa using holds_value⟩ past (by simp) (by simp)
  | error problem => exact .operation _ (picked.of_eq_error outcome)

variable (base : Nat) (c : Char)

/-- What can follow where a subscript opens. -/
theorem openIndex_follows (holds : s.Holds P) {v : Value} (v_holds : P v) (bracket : c = '[')
    (past : s.offset = offset + c.utf8Size) :
    Follows P E offset focus c (s.openIndex base v) := by
  simp only [openIndex]
  split_ifs
  · exact .tooDeepIndex bracket past
  · refine .outside ⟨?_, by simp, by simp⟩ past (by simp) (by simp)
    exact List.forall_mem_cons.mpr ⟨⟨v_holds, holds.left⟩, holds.frames⟩

/-- What can follow where an operand must begin. -/
theorem readOperand_follows (holds : s.Holds P) :
    Follows P E s.offset focus c (s.readOperand c) := by
  simp only [readOperand]
  split_ifs with blank bracket starts
  · exact .outside (holds.past c (by simp)) rfl (by simp [State.past]) (by simp [State.past])
  · exact .outside (holds.past c (by simp)) rfl (by simp [State.past]) (fun _ _ => .inl bracket)
  · exact .begins (holds.past c (by simp)) rfl rfl starts
  · exact .unexpected

/-- What can follow behind an opening bracket. -/
theorem readOpened_follows (carried : Carried P E) (holds : s.Holds P) {maker : Maker}
    (opened : s.focus = .opened maker) :
    Follows P E s.offset s.focus c (s.readOpened base maker c) := by
  simp only [readOpened]
  split_ifs with blank
  · refine .outside (holds.past c (by simp)) rfl (by simp [State.past]) (fun other same => ?_)
    rw [opened]
    exact .inr (.inr ⟨blank, same⟩)
  · exact close_follows carried (holds.past c (by simp)) (by simp) rfl
  · exact .tooDeepItem opened
  · refine readOperand_follows c
      (s := ⟨s.offset, .items maker [] s.left :: s.frames, none, s.focus⟩)
      ⟨?_, by simp, holds.term⟩
    exact List.forall_mem_cons.mpr ⟨⟨by simp, holds.left⟩, holds.frames⟩

/-- What can follow behind a sum. -/
theorem readAfterSum_follows (carried : Carried P E) (holds : s.Holds P) {sum : Value}
    (sum_holds : P sum) (notBlank : Text.isBlank c = false) (noIndex : c ≠ '[') (noPlus : c ≠ '+') :
    Follows P E s.offset focus c (s.readAfterSum sum c) := by
  obtain ⟨offset, frames, left, own⟩ := s
  have frames_hold := holds.frames
  simp only [readAfterSum]
  split
  · exact .ended sum_holds notBlank noIndex noPlus
  · obtain ⟨⟨done_hold, outer_hold⟩, rest_hold⟩ := List.forall_mem_cons.mp frames_hold
    have items_hold := List.forall_mem_cons.mpr ⟨sum_holds, done_hold⟩
    split_ifs
    · refine .outside ⟨?_, by simp, by simp [State.past]⟩ rfl (by simp [State.past])
        (by simp [State.past])
      exact List.forall_mem_cons.mpr ⟨⟨items_hold, outer_hold⟩, rest_hold⟩
    · refine close_follows carried ⟨rest_hold, outer_hold, by simp [State.past]⟩ ?_ rfl
      intro v mem
      exact items_hold v (List.mem_reverse.mp mem)
    · exact .expected _ true rfl
  · obtain ⟨⟨base_holds, outer_hold⟩, rest_hold⟩ := List.forall_mem_cons.mp frames_hold
    split_ifs
    · exact closeIndex_follows carried ⟨rest_hold, outer_hold, by simp [State.past]⟩ base_holds
        sum_holds rfl
    · exact .expected ']' false rfl

/-- What can follow behind a term. -/
theorem readAfterTerm_follows (carried : Carried P E) (holds : s.Holds P) {v : Value}
    (v_holds : P v) : Follows P E s.offset focus c (s.readAfterTerm base v c) := by
  have total_holds := carried.total_holds holds.left v_holds
  simp only [readAfterTerm]
  split_ifs with blank bracket plus
  · exact .outside (holds.past c (by simpa using v_holds)) rfl (by simp [State.past])
      (by simp [State.past])
  · exact openIndex_follows base c (holds.past c (by simp)) v_holds bracket rfl
  · cases sum : total s.left v with
    | error problem => exact .operation _ (total_holds.of_eq_error sum)
    | ok w =>
      refine .outside ⟨holds.frames, ?_, by simp [State.past]⟩ rfl (by simp [State.past])
        (by simp [State.past])
      simpa using total_holds.of_eq_ok sum
  · cases sum : total s.left v with
    | error problem => exact .operation _ (total_holds.of_eq_error sum)
    | ok w =>
      exact readAfterSum_follows c carried holds (total_holds.of_eq_ok sum)
        (by simpa using blank) bracket plus

/-- What can follow behind a name. -/
theorem readAfterName_follows (carried : Carried P E) (holds : s.Holds P) (f : Builtin) :
    Follows P E s.offset focus c (s.readAfterName base f c) := by
  simp only [readAfterName]
  split_ifs with blank bracket
  · exact .outside (holds.past c (by simp)) rfl (by simp [State.past]) (by simp [State.past])
  · exact .outside (holds.past c (by simp)) rfl (by simp [State.past])
      (fun _ _ => .inr (.inl bracket))
  · exact readAfterTerm_follows base c carried holds (carried.builtin f)

/-- What a step can do. -/
theorem read_follows (carried : Carried P E) (holds : s.Holds P) :
    Follows P E s.offset s.focus c (s.read base c) := by
  simp only [read]
  split
  · exact readOperand_follows c holds
  · next maker opened => exact readOpened_follows base c carried holds opened
  · next letters word =>
    simp only [readInWord]
    split_ifs with continues
    · exact .inside (holds.past c (by simp)) rfl word rfl continues
    · cases known : named letters with
      | ok f => exact readAfterName_follows base c carried holds f
      | error problem => exact .unknown _ word known
  · exact readAfterName_follows base c carried holds _
  · next v term => exact readAfterTerm_follows base c carried holds (holds.term v term)

end State

/-! ## Words and problems -/

/-- The problems that can be met at the character `c`, which stands at an offset. -/
inductive MetAt (offset : Nat) (c : Char) : Problem → Prop where
  | operation {problem : Problem} (semantic : problem.IsSemantic) : MetAt offset c problem
  | nested (place : Nat) : MetAt offset c (.malformed place .nestedTooDeeply)
  | unexpected : MetAt offset c (.malformed offset (.unexpected c))
  | expected (closer : Char) (orComma : Bool) :
    MetAt offset c (.malformed (offset + c.utf8Size) (.expected closer orComma c))

/-- What the character `c` can lead to, which stands at an offset behind what has been read. -/
inductive LeadsTo (offset : Nat) (focus : Focus) (c : Char) : Status → Prop where
  | outside {s : State} (h : ∀ letters, s.focus ≠ .word letters) :
    LeadsTo offset focus c (.reading s)
  | begins {s : State} (starts : startsName c = true) : LeadsTo offset focus c (.reading s)
  | inside {s : State} {letters : List Char} (word : focus = .word letters)
    (continues : continuesName c = true) : LeadsTo offset focus c (.reading s)
  | ended (v : Value) (place : Nat) : LeadsTo offset focus c (.ended v place)
  | failed {problem : Problem} (place : Nat) (met : MetAt offset c problem) :
    LeadsTo offset focus c (.failed place problem)

/-- Where a step leads, but for the values that the machine holds. -/
theorem State.read_leadsTo (s : State) (base : Nat) (c : Char) :
    LeadsTo s.offset s.focus c (s.read base c) := by
  have follows := read_follows base c carried_semantic s.holds_true
  generalize s.read base c = status at follows
  cases follows with
  | outside _ _ rest _ => exact .outside rest
  | begins _ _ _ starts => exact .begins starts
  | inside _ _ before _ continues => exact .inside before continues
  | ended => exact .ended _ _
  | operation place met => exact .failed place (.operation met)
  | @unknown letters _ place _ unknown =>
    exact .failed place (.operation ((named_semantic letters).of_eq_error unknown))
  | unexpected => exact .failed _ .unexpected
  | expected closer orComma past =>
    subst past
    exact .failed _ (.expected closer orComma)
  | tooDeepItem => exact .failed _ (.nested _)
  | tooDeepIndex => exact .failed _ (.nested _)

end Lipogram.Reader
