import Lipogram.Proofs.Characters
import Lipogram.Proofs.Outlines
import Mathlib.Data.List.Forall2

/-!
# Places in respelled sources

How far places move when names in a source are exchanged for others. Where `bool` stands for `len`
all brackets stay as they are, and what comes behind moves by the one letter that is more. So the
place where the nesting becomes too deep moves by the number of names to its left that are exchanged
(`tooDeep_respelled`).
-/

set_option autoImplicit false

namespace Lipogram

/-! ## Exchanged names -/

namespace Lexeme

/-- The number of bytes of a lexeme. -/
def size (l : Lexeme) : Nat :=
  (String.ofList l.characters).utf8ByteSize

/-- A lexeme that stays, or the name `len` with `bool` in its place. -/
inductive Respelled : Lexeme → Lexeme → Prop where
  | same (l : Lexeme) : Respelled l l
  | truth : Respelled Builtin.len.toName.lexeme Builtin.bool.toName.lexeme

/-- Nothing has to be exchanged. -/
theorem respelled_refl (ls : List Lexeme) : List.Forall₂ Respelled ls ls :=
  List.forall₂_same.mpr (fun l _ => .same l)

/-- How many lexemes are changed in a list that end, in the list as it was, in front of an offset or
at it. -/
def changedBefore : List Lexeme → List Lexeme → Nat → Nat
  | l :: ls, m :: ms, offset =>
    if l.size ≤ offset then (if l = m then 0 else 1) + changedBefore ls ms (offset - l.size) else 0
  | _, _, _ => 0

variable {ls ms : List Lexeme} {place : Nat}

/-- A lexeme that stays and is passed does not count. -/
theorem changedBefore_same (l : Lexeme) (ls ms : List Lexeme) (place : Nat) :
    changedBefore (l :: ls) (l :: ms) (l.size + place) = changedBefore ls ms place := by
  simp [changedBefore]

/-- A lexeme that is changed and is passed counts. -/
theorem changedBefore_truth (ls ms : List Lexeme) (place : Nat) :
    changedBefore (Builtin.len.toName.lexeme :: ls) (Builtin.bool.toName.lexeme :: ms)
        (Builtin.len.toName.lexeme.size + place) =
      1 + changedBefore ls ms place := by
  have differ : Builtin.len.toName.lexeme ≠ Builtin.bool.toName.lexeme := by decide
  simp [changedBefore, differ]

/-- Nothing is changed in front of the first lexeme that has a size. -/
theorem changedBefore_zero (h : List.Forall₂ Respelled ls ms) : changedBefore ls ms 0 = 0 := by
  induction h with
  | nil => rfl
  | cons first rest ih =>
    cases first with
    | same l =>
      rw [changedBefore, if_pos rfl]
      split_ifs
      · rw [Nat.zero_sub, ih]
      · rfl
    | truth => rfl

/-- Nothing is changed up to a place in a lexeme that stays. -/
theorem changedBefore_inside (h : List.Forall₂ Respelled ls ms) {l : Lexeme}
    (inside : place ≤ l.size) : changedBefore (l :: ls) (l :: ms) place = 0 := by
  rcases Nat.lt_or_eq_of_le inside with less | rfl
  · rw [changedBefore, if_neg (Nat.not_le_of_lt less)]
  · exact (changedBefore_same l ls ms 0).trans (changedBefore_zero h)

end Lexeme

/-! ## Outlines behind lexemes -/

namespace Reader

variable {o : Outline}

/-- The outline behind some characters, or the place where the nesting becomes too deep in them. -/
def Outline.across (o : Outline) : List Char → Except Nat Outline
  | [] => .ok o
  | c :: cs =>
    match o.read c with
    | .ok next => (next.across cs).mapError (c.utf8Size + ·)
    | .error place => .error place

/-- The first character counts with its bytes. -/
theorem utf8ByteSize_cons (c : Char) (cs : List Char) :
    (String.ofList (c :: cs)).utf8ByteSize = c.utf8Size + (String.ofList cs).utf8ByteSize := by
  rw [← List.singleton_append, String.ofList_append, String.utf8ByteSize_append,
    ← String.singleton_eq_ofList, String.utf8ByteSize_singleton]

/-- The place in a rest is a place behind the characters in front of it, unless they hold one. -/
theorem Outline.tooDeep_append (o : Outline) (cs ds : List Char) :
    o.tooDeep? (cs ++ ds) =
      match o.across cs with
      | .ok next => (next.tooDeep? ds).map ((String.ofList cs).utf8ByteSize + ·)
      | .error place => some place := by
  induction cs generalizing o with
  | nil => simp [across]
  | cons c cs ih =>
    rw [List.cons_append, tooDeep?, across]
    cases o.read c with
    | error place => rfl
    | ok next =>
      simp only [ih next, utf8ByteSize_cons]
      cases next.across cs with
      | error place => rfl
      | ok last =>
        simp only [Except.mapError, Option.map_map]
        congr 1
        funext place
        exact (Nat.add_assoc _ _ _).symm

/-- A step finds the nesting too deep at its character: in front of it, or behind it. -/
theorem Outline.place_of_read {c : Char} {place : Nat} (h : o.read c = .error place) :
    place ≤ c.utf8Size := by
  have opened (closer : Char) (h : o.readOpened closer c = .error place) : place = 0 := by
    unfold readOpened at h
    split_ifs at h
    exact (Except.error.inj h).symm
  unfold Outline.read at h
  split at h
  · simp at h
  · simp [opened _ h]
  · simp [opened _ h]
  · unfold readBehind at h
    split_ifs at h
    exact Nat.le_of_eq (Except.error.inj h).symm

/-- Places that are found in characters are not behind them. -/
theorem Outline.place_of_across {cs : List Char} {place : Nat} (h : o.across cs = .error place) :
    place ≤ (String.ofList cs).utf8ByteSize := by
  induction cs generalizing o place with
  | nil => simp [across] at h
  | cons c cs ih =>
    rw [utf8ByteSize_cons]
    rw [across] at h
    cases step : o.read c with
    | error here =>
      simp only [step] at h
      obtain rfl := Except.error.inj h
      exact Nat.le_add_right_of_le (place_of_read step)
    | ok next =>
      simp only [step] at h
      cases rest : next.across cs with
      | ok last => simp [rest, Except.mapError] at h
      | error behind =>
        rw [rest] at h
        obtain rfl := Except.error.inj h
        exact Nat.add_le_add_left (ih rest) _

/-- The outline behind a name, or the place of an item that begins with it and would stand too
deep. -/
def Outline.behindName (o : Outline) : Except Nat Outline :=
  match o.stand with
  | .operand => .ok ⟨o.depth, .behind⟩
  | .behind => .ok ⟨o.depth, .behind⟩
  | _ => if deepestLevel ≤ o.depth then .error 0 else .ok ⟨o.depth + 1, .behind⟩

/-- An item that stands too deep begins where the name does. -/
theorem Outline.place_of_behindName {place : Nat} (h : o.behindName = .error place) :
    place = 0 := by
  unfold behindName at h
  split at h
  · simp at h
  · simp at h
  · split_ifs at h
    exact (Except.error.inj h).symm

/-- The letters of a name leave the brackets as they are. -/
theorem Outline.across_letters (depth : Nat) {letters : List Char}
    (h : letters.all continuesName = true) :
    Outline.across ⟨depth, .behind⟩ letters = .ok ⟨depth, .behind⟩ := by
  induction letters with
  | nil => rfl
  | cons c letters ih =>
    rw [List.all_cons, Bool.and_eq_true] at h
    have step : Outline.read ⟨depth, .behind⟩ c = .ok ⟨depth, .behind⟩ :=
      readBehind_inside (.inr h.1)
    simp only [across, step, ih h.2]
    rfl

/-- The first letter of a name decides where the name stands. -/
theorem Outline.read_start (o : Outline) {c : Char} (starts : startsName c = true) :
    o.read c = o.behindName := by
  have blank : Text.isBlank c = false := blank_eq_false_of_starts starts
  have other (d : Char) (no_letter : startsName d = false) : c ≠ d := by
    rintro rfl
    simp [no_letter] at starts
  have operand (depth : Nat) : readOperand depth c = ⟨depth, .behind⟩ := by
    simp [readOperand, blank, other '[' rfl]
  obtain ⟨depth, stand⟩ := o
  cases stand with
  | operand => exact congrArg Except.ok (operand depth)
  | behind => exact readBehind_inside (.inr (continues_of_starts starts))
  | inList => simp [Outline.read, behindName, readOpened, blank, other ']' rfl, operand]
  | inCall => simp [Outline.read, behindName, readOpened, blank, other ')' rfl, operand]

/-- All names are crossed alike. -/
theorem Outline.across_name (o : Outline) (n : Name) :
    o.across n.lexeme.characters = o.behindName := by
  have spelled : n.lexeme.characters = n.first :: n.rest := rfl
  rw [spelled, across, read_start o n.first_starts]
  unfold behindName
  have rest (depth : Nat) := across_letters depth n.rest_continues
  cases o.stand with
  | operand => simp only [rest]; rfl
  | behind => simp only [rest]; rfl
  | _ =>
    dsimp only
    split_ifs
    · rfl
    · simp only [rest]
      rfl

/-- Where names are exchanged, the place where the nesting becomes too deep moves by the number of
these names to its left. -/
theorem tooDeep_respelled {ls ms : List Lexeme} (h : List.Forall₂ Lexeme.Respelled ls ms)
    {o : Outline} {place : Nat} (found : o.tooDeep? (Lexeme.spelling ls) = some place) :
    o.tooDeep? (Lexeme.spelling ms) = some (place + Lexeme.changedBefore ls ms place) := by
  induction h generalizing o place with
  | nil =>
    rw [found]
    rfl
  | @cons l m ls ms first rest ih =>
    rw [Lexeme.spelling_cons, Outline.tooDeep_append] at found ⊢
    cases first with
    | same l =>
      cases crossed : o.across l.characters with
      | error here =>
        simp only [crossed] at found ⊢
        obtain rfl := Option.some.inj found
        rw [Lexeme.changedBefore_inside rest (Outline.place_of_across crossed)]
        rfl
      | ok next =>
        simp only [crossed] at found ⊢
        obtain ⟨behind, found_behind, rfl⟩ := Option.map_eq_some_iff.mp found
        rw [ih found_behind]
        have passed := Lexeme.changedBefore_same l ls ms behind
        rw [Lexeme.size] at passed
        rw [passed, Option.map_some, Nat.add_assoc]
    | truth =>
      rw [Outline.across_name] at found ⊢
      cases crossed : o.behindName with
      | error here =>
        simp only [crossed] at found ⊢
        obtain rfl := Option.some.inj found
        obtain rfl := Outline.place_of_behindName crossed
        rfl
      | ok next =>
        simp only [crossed] at found ⊢
        obtain ⟨behind, found_behind, rfl⟩ := Option.map_eq_some_iff.mp found
        rw [ih found_behind]
        -- the name that stands here now is one letter longer
        have longer : (String.ofList Builtin.bool.toName.lexeme.characters).utf8ByteSize =
            (String.ofList Builtin.len.toName.lexeme.characters).utf8ByteSize + 1 := rfl
        have passed := Lexeme.changedBefore_truth ls ms behind
        rw [Lexeme.size] at passed
        rw [passed, longer, Option.map_some]
        congr 1
        omega

end Reader

end Lipogram
