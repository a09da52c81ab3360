import Lipogram.Proofs.Steps
import Lipogram.Proofs.Transitions

/-!
# Outlines of the machine

Where the nesting becomes too deep is decided by the brackets of a source, and not by its values or
by the letters of its names. The outline of a machine is what it keeps of all that: the number of
open brackets, and where the next character stands. As long as the machine reads, its outline moves
from character to character on its own (`State.read_traced`), so the place where the nesting becomes
too deep can be told from the characters alone (`tooDeep_of_read`).
-/

set_option autoImplicit false

namespace Lipogram.Reader

/-! ## Outlines -/

/-- Where a character stands: where an operand must begin, behind the opening bracket of a list or
of a call, or behind an operand or a part of one. -/
inductive Stand where
  | operand
  | inList
  | inCall
  | behind

/-- What decides where the nesting becomes too deep: the number of open brackets, and where the next
character stands. -/
structure Outline where
  depth : Nat
  stand : Stand

/-- Where a character stands that comes behind the focus. -/
def Focus.stand : Focus → Stand
  | .operand => .operand
  | .opened .list => .inList
  | .opened (.call _) => .inCall
  | .word _ => .behind
  | .name _ => .behind
  | .term _ => .behind

/-- The outline of a state. -/
def State.outline (s : State) : Outline :=
  ⟨s.frames.length, s.focus.stand⟩

namespace Outline

/-- The outline behind a character that stands inside `depth` brackets where an operand must
begin. -/
def readOperand (depth : Nat) (c : Char) : Outline :=
  if Text.isBlank c then ⟨depth, .operand⟩
  else if c = '[' then ⟨depth, .inList⟩
  else ⟨depth, .behind⟩

/-- The outline behind the first character in a bracket that closes with `closer`; or the place of
the first item, if that stands too deep. -/
def readOpened (o : Outline) (closer c : Char) : Except Nat Outline :=
  if Text.isBlank c then .ok o
  else if c = closer then .ok ⟨o.depth, .behind⟩
  else if deepestLevel ≤ o.depth then .error 0
  else .ok (readOperand (o.depth + 1) c)

/-- The outline behind a character that comes after an operand or goes on with one; or the place of
the index in a subscript, if that stands too deep. -/
def readBehind (depth : Nat) (c : Char) : Except Nat Outline :=
  if c = '(' then .ok ⟨depth, .inCall⟩
  else if c = '[' then
    if deepestLevel ≤ depth then .error c.utf8Size else .ok ⟨depth + 1, .operand⟩
  else if c = '+' || c = ',' then .ok ⟨depth, .operand⟩
  else if c = ']' || c = ')' then .ok ⟨depth - 1, .behind⟩
  else .ok ⟨depth, .behind⟩

/-- Blanks and letters behind an operand leave the brackets as they are. -/
theorem readBehind_inside {depth : Nat} {c : Char}
    (h : Text.isBlank c = true ∨ continuesName c = true) :
    readBehind depth c = .ok ⟨depth, .behind⟩ := by
  have other (d : Char) (no_blank : Text.isBlank d = false) (no_letter : continuesName d = false) :
      c ≠ d := by
    rintro rfl
    simp [no_blank, no_letter] at h
  simp [readBehind, other '(' rfl rfl, other '[' rfl rfl, other '+' rfl rfl, other ',' rfl rfl,
    other ']' rfl rfl, other ')' rfl rfl]

/-- The outline behind a character, or the place where the nesting becomes too deep, as a number of
bytes from the character on. -/
def read (o : Outline) (c : Char) : Except Nat Outline :=
  match o.stand with
  | .operand => .ok (readOperand o.depth c)
  | .inList => o.readOpened ']' c
  | .inCall => o.readOpened ')' c
  | .behind => readBehind o.depth c

/-- Whether the source would go on too deep where it ends: with the first item in a bracket. -/
def endsTooDeep (o : Outline) : Bool :=
  match o.stand with
  | .inList => deepestLevel ≤ o.depth
  | .inCall => deepestLevel ≤ o.depth
  | _ => false

/-- The place in the rest of a source where the nesting becomes too deep, if it does, as a number of
bytes from the beginning of the rest. -/
def tooDeep? (o : Outline) : List Char → Option Nat
  | [] => if o.endsTooDeep then some 0 else none
  | c :: cs =>
    match o.read c with
    | .ok next => (next.tooDeep? cs).map (c.utf8Size + ·)
    | .error place => some place

end Outline

/-! ## Steps -/

/-- What a step leads to, in a machine with the outline `o` at an offset: as long as the machine
reads, and where it finds the nesting too deep, the outline tells. -/
inductive Traced (o : Outline) (offset : Nat) (c : Char) : Status → Prop where
  | reading {s : State} (past : s.offset = offset + c.utf8Size) (moves : o.read c = .ok s.outline) :
    Traced o offset c (.reading s)
  | ended (v : Value) (place : Nat) : Traced o offset c (.ended v place)
  | tooDeep {place steps : Nat} (here : place = offset + steps)
    (found : o.read c = .error steps) :
    Traced o offset c (.failed place (.malformed place .nestedTooDeeply))
  | failed {problem : Problem} (place : Nat)
    (other : ∀ offset, problem ≠ .malformed offset .nestedTooDeeply) :
    Traced o offset c (.failed place problem)

namespace State

variable {s : State} {o : Outline} {offset : Nat} {c : Char}

/-- Behind an operand, or inside a name, the outline moves by the brackets alone. -/
theorem outline_read_behind (behind : s.outline.stand = .behind) (c : Char) :
    s.outline.read c = Outline.readBehind s.frames.length c := by
  rw [Outline.read, behind]
  rfl

/-- A closed bracket is behind the machine, if the operation succeeds. -/
theorem close_traced (maker : Maker) (items : List Value)
    (past : s.offset = offset + c.utf8Size) (moves : o.read c = .ok ⟨s.frames.length, .behind⟩) :
    Traced o offset c (s.close maker items) := by
  simp only [close]
  cases made : maker.make items with
  | ok v => exact .reading past moves
  | error problem =>
    have semantic := (make_semantic maker items).of_eq_error made
    exact .failed _ (fun offset => semantic.ne_malformed offset _)

/-- A subscript is behind the machine, if the operation succeeds. -/
theorem closeIndex_traced (v index : Value)
    (past : s.offset = offset + c.utf8Size) (moves : o.read c = .ok ⟨s.frames.length, .behind⟩) :
    Traced o offset c (s.closeIndex v index) := by
  simp only [closeIndex]
  cases picked : v.pick index with
  | ok w => exact .reading past moves
  | error problem =>
    have semantic := (pick_semantic v index).of_eq_error picked
    exact .failed _ (fun offset => semantic.ne_malformed offset _)

/-- Where an operand must begin, the outline tells where a character leads. -/
theorem readOperand_traced (s : State)
    (moves : o.read c = .ok (Outline.readOperand s.frames.length c)) :
    Traced o s.offset c (s.readOperand c) := by
  unfold Outline.readOperand at moves
  unfold readOperand
  split_ifs at moves ⊢
  · exact .reading rfl moves
  · exact .reading rfl moves
  · exact .reading rfl moves
  · exact .failed _ (by simp)

/-- Behind an opening bracket, the outline tells where a character leads. -/
theorem readOpened_traced {maker : Maker} (opened : s.focus = .opened maker) (c : Char) :
    Traced s.outline s.offset c (s.readOpened 0 maker c) := by
  have stand : s.outline.stand = (Focus.opened maker).stand := congrArg Focus.stand opened
  have moves : s.outline.read c = s.outline.readOpened maker.closer c := by
    cases maker <;> simp [Outline.read, stand, Focus.stand, Maker.closer]
  have depth : s.outline.depth = s.frames.length := rfl
  have same : (s.past c (.opened maker)).outline = s.outline := by simp [outline, past, opened]
  simp only [Outline.readOpened, depth] at moves
  simp only [readOpened, isDeepest, Nat.zero_add, decide_eq_true_eq]
  split_ifs at moves ⊢
  · exact .reading rfl (same ▸ moves)
  · exact close_traced maker [] rfl moves
  · exact .tooDeep rfl moves
  · exact readOperand_traced ⟨s.offset, .items maker [] s.left :: s.frames, none, s.focus⟩ moves

/-- Behind a sum, the outline tells where a character leads that does not go on with it. -/
theorem readAfterSum_traced (behind : s.outline.stand = .behind) (sum : Value) (c : Char) :
    Traced s.outline s.offset c (s.readAfterSum sum c) := by
  have moves := outline_read_behind behind c
  obtain ⟨offset, frames, left, focus⟩ := s
  cases frames with
  | nil => exact .ended _ _
  | cons frame frames =>
    cases frame with
    | items maker done outer =>
      simp only [readAfterSum]
      split_ifs with comma closes
      · subst comma
        exact .reading rfl moves
      · refine close_traced maker _ rfl ?_
        subst closes
        cases maker <;> exact moves
      · exact .failed _ (by simp)
    | index base outer =>
      simp only [readAfterSum]
      split_ifs with closes
      · subst closes
        exact closeIndex_traced _ _ rfl moves
      · exact .failed _ (by simp)

/-- Where a subscript opens, the outline tells whether its index stands too deep. -/
theorem openIndex_traced (moves : s.outline.read '[' = Outline.readBehind s.frames.length '[')
    (v : Value) : Traced s.outline s.offset '[' ((s.past '[' .operand).openIndex 0 v) := by
  have opens : Outline.readBehind s.frames.length '[' =
      if deepestLevel ≤ s.frames.length then .error '['.utf8Size
      else .ok ⟨s.frames.length + 1, .operand⟩ := rfl
  rw [opens] at moves
  have frames : (s.past '[' .operand).frames = s.frames := rfl
  simp only [openIndex, isDeepest, frames, Nat.zero_add, decide_eq_true_eq]
  split_ifs at moves ⊢
  · exact .tooDeep rfl moves
  · exact .reading rfl moves

/-- Behind a term, the outline tells where a character leads. -/
theorem readAfterTerm_traced (behind : s.outline.stand = .behind) (v : Value) (c : Char) :
    Traced s.outline s.offset c (s.readAfterTerm 0 v c) := by
  have moves := outline_read_behind behind c
  unfold readAfterTerm
  split_ifs with blank bracket plus
  · exact .reading rfl (moves.trans (Outline.readBehind_inside (.inl blank)))
  · subst bracket
    exact openIndex_traced moves v
  · subst plus
    cases added : total s.left v with
    | ok sum => exact .reading rfl moves
    | error problem =>
      have semantic := (total_semantic s.left v).of_eq_error added
      exact .failed _ (fun offset => semantic.ne_malformed offset _)
  · cases added : total s.left v with
    | ok sum => exact readAfterSum_traced behind sum c
    | error problem =>
      have semantic := (total_semantic s.left v).of_eq_error added
      exact .failed _ (fun offset => semantic.ne_malformed offset _)

/-- Behind a name, the outline tells where a character leads. -/
theorem readAfterName_traced (behind : s.outline.stand = .behind) (f : Builtin) (c : Char) :
    Traced s.outline s.offset c (s.readAfterName 0 f c) := by
  have moves := outline_read_behind behind c
  unfold readAfterName
  split_ifs with blank bracket
  · exact .reading rfl (moves.trans (Outline.readBehind_inside (.inl blank)))
  · subst bracket
    exact .reading rfl moves
  · exact readAfterTerm_traced behind (.builtin f) c

/-- As long as the machine reads, its outline moves on its own, and it tells where the nesting
becomes too deep. -/
theorem read_traced (s : State) (c : Char) : Traced s.outline s.offset c (s.read 0 c) := by
  unfold read
  split
  · next operand =>
    have stand : s.outline.stand = .operand := congrArg Focus.stand operand
    have moves : s.outline.read c = .ok (Outline.readOperand s.frames.length c) := by
      rw [Outline.read, stand]
      rfl
    exact readOperand_traced s moves
  · next maker opened => exact readOpened_traced opened c
  · next letters word =>
    have behind : s.outline.stand = .behind := congrArg Focus.stand word
    unfold readInWord
    split_ifs with continues
    · have moves := outline_read_behind behind c
      exact .reading rfl (moves.trans (Outline.readBehind_inside (.inr continues)))
    · cases known : named letters with
      | ok f => exact readAfterName_traced behind f c
      | error problem =>
        have semantic := (named_semantic letters).of_eq_error known
        exact .failed _ (fun offset => semantic.ne_malformed offset _)
  · next f name => exact readAfterName_traced (congrArg Focus.stand name) f c
  · next v term => exact readAfterTerm_traced (congrArg Focus.stand term) v c

/-- Where the source ends, the outline tells whether the nesting is found too deep. -/
theorem finish_traced {place : Nat}
    (h : s.finish 0 = .error (.malformed place .nestedTooDeeply)) :
    s.outline.tooDeep? [] = some 0 ∧ place = s.offset := by
  have no_term (v : Value) : s.finishTerm v ≠ .error (.malformed place .nestedTooDeeply) := by
    unfold finishTerm
    cases added : total s.left v with
    | ok sum => rcases s.frames with _ | ⟨_ | _, _⟩ <;> simp
    | error problem =>
      have semantic := (total_semantic s.left v).of_eq_error added
      simpa using semantic.ne_malformed place _
  unfold finish at h
  split at h
  · simp at h
  · next maker opened =>
    have stand : s.outline.stand = (Focus.opened maker).stand := congrArg Focus.stand opened
    split_ifs at h with deepest
    · obtain ⟨rfl, -⟩ := Problem.malformed.inj (Except.error.inj h)
      have depth : decide (deepestLevel ≤ s.outline.depth) = true := by
        rw [isDeepest, Nat.zero_add] at deepest
        exact deepest
      have ends : s.outline.endsTooDeep = true := by
        unfold Outline.endsTooDeep
        rw [stand]
        cases maker <;> exact depth
      exact ⟨by rw [Outline.tooDeep?, if_pos ends], rfl⟩
    · simp at h
  · next letters word =>
    cases known : named letters with
    | ok f =>
      simp only [known] at h
      exact absurd h (no_term _)
    | error problem =>
      simp only [known] at h
      have semantic := (named_semantic letters).of_eq_error known
      exact absurd (Except.error.inj h) (semantic.ne_malformed place _)
  · exact absurd h (no_term _)
  · exact absurd h (no_term _)

end State

/-! ## Runs -/

/-- Where the rest of a source becomes nested too deep, the outline tells the place. -/
theorem tooDeep_of_read {s : State} {cs : List Char} {place : Nat}
    (h : (read 0 (.reading s) cs).finish 0 = .error (.malformed place .nestedTooDeeply)) :
    ∃ steps, s.outline.tooDeep? cs = some steps ∧ place = s.offset + steps := by
  induction cs generalizing s with
  | nil => exact ⟨0, State.finish_traced h⟩
  | cons c cs ih =>
    have step : read 0 (.reading s) (c :: cs) = read 0 (s.read 0 c) cs := rfl
    rw [step] at h
    have traced := s.read_traced c
    generalize s.read 0 c = status at traced h
    rw [Outline.tooDeep?]
    cases traced with
    | reading past moves =>
      obtain ⟨steps, found, rfl⟩ := ih h
      refine ⟨c.utf8Size + steps, ?_, ?_⟩
      · simp only [moves, found, Option.map_some]
      · rw [past, Nat.add_assoc]
    | ended v offset =>
      rw [read_of_stopped (by trivial)] at h
      simp [Status.finish] at h
    | tooDeep here found =>
      rw [read_of_stopped (by trivial)] at h
      obtain ⟨rfl, -⟩ := Problem.malformed.inj (Except.error.inj h)
      exact ⟨_, by rw [found], here⟩
    | failed offset other =>
      rw [read_of_stopped (by trivial)] at h
      exact absurd (Except.error.inj h) (other place)

end Lipogram.Reader
