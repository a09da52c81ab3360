import Lipogram.Proofs.Offsets
import Lipogram.Proofs.Scanning
import Lipogram.Proofs.Transitions

/-!
# Reading lexeme by lexeme

Blanks between lexemes do not count: reading a source is, but for offsets, taking its lexemes one by
one (`evaluate_lexemes`). All that is proved about the lexemes of a source holds of every layout.
-/

set_option autoImplicit false

namespace Lipogram

namespace Reader

/-- The machine behind a lexeme. The blank ends a word; nothing is known of offsets. -/
def take (status : Status) : Lexeme → Status
  | .word letters => (read 0 status (letters ++ [' '])).unplaced
  | .mark c => (status.read 0 c).unplaced

/-- The machine behind some lexemes. -/
def takeAll (status : Status) (ls : List Lexeme) : Status :=
  ls.foldl take status

/-- Taking some lexemes is taking the first of them and then the others. -/
theorem takeAll_append (status : Status) (ls ms : List Lexeme) :
    takeAll status (ls ++ ms) = takeAll (takeAll status ls) ms :=
  List.foldl_append

/-- A lexeme is taken alike at every offset. -/
theorem take_congr {a b : Status} (h : a.unplaced = b.unplaced) (l : Lexeme) :
    take a l = take b l := by
  cases l with
  | word letters => exact read_congr 0 h _
  | mark c => exact read_congr 0 h [c]

/-- Lexemes are taken alike at every offset. -/
theorem takeAll_congr {a b : Status} (h : a.unplaced = b.unplaced) (ls : List Lexeme) :
    (takeAll a ls).unplaced = (takeAll b ls).unplaced := by
  cases ls with
  | nil => exact h
  | cons l ls =>
    simp only [takeAll, List.foldl_cons]
    rw [take_congr h l]

/-- There is nothing more to forget of a status without offsets. -/
@[simp]
theorem Status.unplaced_unplaced (status : Status) :
    status.unplaced.unplaced = status.unplaced := by
  cases status with
  | reading s => rfl
  | ended v offset => rfl
  | failed offset problem => cases problem <;> rfl

/-! ## Blanks -/

/-- A blank goes on with no name. -/
theorem continues_eq_false_of_blank {c : Char} (h : Text.isBlank c = true) :
    continuesName c = false := by
  have code : c.val.toNat = c.toNat := rfl
  have upper : 'A'.val.toNat = 65 ∧ 'Z'.val.toNat = 90 := ⟨rfl, rfl⟩
  have lower : 'a'.val.toNat = 97 ∧ 'z'.val.toNat = 122 := ⟨rfl, rfl⟩
  have digit : '0'.val.toNat = 48 ∧ '9'.val.toNat = 57 := ⟨rfl, rfl⟩
  have spans : continuesName c =
      (((decide ('A'.val ≤ c.val ∧ c.val ≤ 'Z'.val) ||
        (decide ('a'.val ≤ c.val) && decide (c.val ≤ 'z'.val))) ||
        (decide ('0'.val ≤ c.val) && decide (c.val ≤ '9'.val))) || c == '_') := rfl
  have line : c ≠ '_' := by rintro rfl; exact absurd h (by decide)
  simp only [Text.isBlank, Bool.or_eq_true, Bool.and_eq_true, decide_eq_true_eq, beq_iff_eq] at h
  simp only [spans, Bool.or_eq_false_iff, Bool.and_eq_false_iff, decide_eq_false_iff_not,
    beq_eq_false_iff_ne, UInt32.le_iff_toNat_le]
  refine ⟨⟨⟨?_, ?_⟩, ?_⟩, line⟩ <;> omega

/-- A machine that is not inside a word. -/
def Status.AtRest : Status → Prop
  | reading s => ∀ letters, s.focus ≠ .word letters
  | _ => True

/-- Whether a machine is inside a word does not depend on offsets. -/
theorem atRest_congr {a b : Status} (h : a.unplaced = b.unplaced) (rest : a.AtRest) :
    b.AtRest := by
  cases a <;> cases b <;> simp_all [Status.unplaced, Status.AtRest, State.at]

/-- A step leads into a word only where one begins or goes on. -/
theorem LeadsTo.atRest {offset : Nat} {focus : Focus} {c : Char} {status : Status}
    (h : LeadsTo offset focus c status) (no_start : startsName c = false)
    (no_letter : ∀ letters, focus = .word letters → continuesName c = false) :
    status.AtRest := by
  cases h with
  | outside h => exact h
  | begins starts => simp [no_start] at starts
  | inside word continues => simp [no_letter _ word] at continues
  | ended v place => trivial
  | failed place met => trivial

namespace Status

variable {status : Status} {c : Char}

/-- A character that ends a word leaves the machine outside of words. -/
theorem read_rest_of_ends (h : continuesName c = false) : (status.read 0 c).AtRest := by
  cases status with
  | ended v offset => trivial
  | failed offset problem => trivial
  | reading s =>
    exact (s.read_leadsTo 0 c).atRest (Lexeme.starts_eq_false_of_ends h) (fun _ _ => h)

/-- Outside of words, only a letter leads into one. -/
theorem AtRest.read_rest (rest : status.AtRest) (h : startsName c = false) :
    (status.read 0 c).AtRest := by
  cases status with
  | ended v offset => trivial
  | failed offset problem => trivial
  | reading s =>
    have outside (letters : List Char) (inside : s.focus = .word letters) :
        continuesName c = false := absurd inside (rest letters)
    exact (s.read_leadsTo 0 c).atRest h outside

/-- Outside of words, a blank changes nothing but offsets. -/
theorem AtRest.read_blank (rest : status.AtRest) (h : Text.isBlank c = true) :
    (status.read 0 c).unplaced = status.unplaced := by
  cases status with
  | ended v offset => rfl
  | failed offset problem => rfl
  | reading s =>
    obtain ⟨offset, frames, left, focus⟩ := s
    cases focus with
    | word letters => exact absurd rfl (rest letters)
    | operand => simp [read, State.read, State.readOperand, h, State.past, unplaced, State.at]
    | opened maker => simp [read, State.read, State.readOpened, h, State.past, unplaced, State.at]
    | name f => simp [read, State.read, State.readAfterName, h, State.past, unplaced, State.at]
    | term v => simp [read, State.read, State.readAfterTerm, h, State.past, unplaced, State.at]

/-- Behind a character that ends words, a blank in front of it changes nothing but offsets. -/
theorem read_blank_read (h : continuesName c = false) :
    ((status.read 0 ' ').read 0 c).unplaced = (status.read 0 c).unplaced := by
  by_cases rest : status.AtRest
  · exact read_congr 0 (rest.read_blank rfl) [c]
  · cases status with
    | ended v offset => exact absurd trivial rest
    | failed offset problem => exact absurd trivial rest
    | reading s =>
      obtain ⟨offset, frames, left, focus⟩ := s
      cases focus with
      | word letters =>
        have blank : continuesName ' ' = false := rfl
        simp only [read, State.read, State.readInWord, h, blank, Bool.false_eq_true, if_false]
        cases State.named letters with
        | error problem => rfl
        | ok f => exact State.readAfterName_at 0 ⟨offset, frames, left, .word letters⟩ _ f c
      | _ => exact absurd (by simp [AtRest]) rest

/-- A blank at the end of the source changes nothing but offsets. -/
theorem finish_read_blank : placeless ((status.read 0 ' ').finish 0) =
    placeless (status.finish 0) := by
  by_cases rest : status.AtRest
  · exact finish_congr 0 (rest.read_blank rfl)
  · cases status with
    | ended v offset => exact absurd trivial rest
    | failed offset problem => exact absurd trivial rest
    | reading s =>
      obtain ⟨offset, frames, left, focus⟩ := s
      cases focus with
      | word letters =>
        have blank : continuesName ' ' = false := rfl
        simp only [read, State.read, State.readInWord, blank, Bool.false_eq_true, if_false, finish,
          State.finish]
        cases State.named letters with
        | error problem => rfl
        | ok f => exact State.finishTerm_at ⟨offset, frames, left, .word letters⟩ _ (.builtin f)
      | _ => exact absurd (by simp [AtRest]) rest

end Status

/-! ## Layout -/

/-- A word that has ended is taken with a blank behind it. -/
theorem take_ended (status : Status) (a : Char) (letters : List Char) :
    takeAll status (Lexeme.scan.ended (a :: letters)) =
      ((read 0 status (a :: letters).reverse).read 0 ' ').unplaced := by
  simp [takeAll, Lexeme.scan.ended, take, read]

/-- A word that has ended leaves the machine outside of words. -/
theorem take_ended_rest {status : Status} {letters : List Char}
    (rest : letters = [] → status.AtRest) :
    (takeAll status (Lexeme.scan.ended letters)).AtRest := by
  cases letters with
  | nil => exact rest rfl
  | cons a letters =>
    rw [take_ended]
    exact atRest_congr (Status.unplaced_unplaced _).symm (Status.read_rest_of_ends rfl)

/-- A word that has ended is taken as it is read, whatever character ends it. -/
theorem read_take_ended {status : Status} {letters : List Char} {c : Char}
    (h : letters ≠ [] → continuesName c = false) :
    ((takeAll status (Lexeme.scan.ended letters)).read 0 c).unplaced =
      (read 0 status (letters.reverse ++ [c])).unplaced := by
  cases letters with
  | nil => rfl
  | cons a letters =>
    have ends := h (List.cons_ne_nil a letters)
    rw [take_ended, Status.read_unplaced, Status.read_blank_read ends, read_append]
    rfl

/-- Reading on from inside a word is taking the lexemes from that word on. -/
theorem finish_read_scan {status : Status} (letters cs : List Char)
    (rest : letters = [] → status.AtRest) :
    placeless ((read 0 status (letters.reverse ++ cs)).finish 0) =
      placeless ((takeAll status (Lexeme.scan letters cs)).finish 0) := by
  induction cs generalizing status letters with
  | nil =>
    cases letters with
    | nil => rfl
    | cons a letters =>
      rw [Lexeme.scan, take_ended, Status.finish_unplaced, Status.finish_read_blank,
        List.append_nil]
  | cons c cs ih =>
    rw [Lexeme.scan]
    by_cases inside : (if letters.isEmpty then startsName c else continuesName c) = true
    · rw [if_pos inside, ← ih (c :: letters) (fun h => absurd h (List.cons_ne_nil c letters))]
      simp
    · rw [if_neg inside]
      have starts := Lexeme.starts_eq_false inside
      have ends : letters ≠ [] → continuesName c = false := by
        intro nonempty
        simpa [nonempty] using inside
      have ended_rest := take_ended_rest rest
      have same : ((takeAll status (Lexeme.scan.ended letters)).read 0 c).unplaced =
          (read 0 status (letters.reverse ++ [c])).unplaced := read_take_ended ends
      -- the character itself leads out of the word, and the rest is read from there
      have outside : (read 0 status (letters.reverse ++ [c])).AtRest :=
        atRest_congr same (ended_rest.read_rest starts)
      have behind := ih [] (fun _ => outside)
      have split_read : read 0 status (letters.reverse ++ c :: cs) =
          read 0 (read 0 status (letters.reverse ++ [c])) ([].reverse ++ cs) := by
        rw [← read_append]
        simp
      rw [split_read, behind]
      split
      · next blank =>
        rw [takeAll_append]
        refine finish_congr 0 (takeAll_congr ?_ _)
        rw [← same, ended_rest.read_blank blank]
      · rw [takeAll_append]
        refine finish_congr 0 (takeAll_congr (b := take _ (.mark c)) ?_ _)
        rw [take, Status.unplaced_unplaced, same]

end Reader

/-! ## Sources -/

/-- The outcome of taking the lexemes of a source. -/
def Reader.outcome (ls : List Lexeme) : Except Problem Value :=
  (takeAll (.start 0 0) ls).finish 0

/-- A source has, but for the places of malformations, the outcome of its lexemes. -/
theorem evaluate_lexemes (source : String) :
    placeless (evaluate source) = placeless (Reader.outcome (Lexeme.ofSource source)) := by
  refine Reader.finish_read_scan [] source.toList (fun _ => ?_)
  simp [Reader.Status.start, Reader.Status.AtRest, Reader.deepestLevel]

/-- Layout does not count: two sources with the same lexemes, well formed or not, have the same
value, or they have problems that differ in nothing but the place of a malformation. -/
theorem evaluate_same_lexemes {a b : String} (h : Lexeme.ofSource a = Lexeme.ofSource b) :
    (∃ v, evaluate a = .ok v ∧ evaluate b = .ok v) ∨
      ∃ problem problem', evaluate a = .error problem ∧ evaluate b = .error problem' ∧
        problem.unplaced = problem'.unplaced := by
  have alike : placeless (evaluate a) = placeless (evaluate b) := by
    rw [evaluate_lexemes, evaluate_lexemes, h]
  cases of_a : evaluate a with
  | ok v =>
    have same : placeless (evaluate b) = .ok v := by
      rw [← alike, placeless_eq_ok]
      exact of_a
    exact .inl ⟨v, rfl, placeless_eq_ok.mp same⟩
  | error problem =>
    cases of_b : evaluate b with
    | ok v =>
      have same : placeless (evaluate a) = .ok v := by
        rw [alike, placeless_eq_ok]
        exact of_b
      rw [placeless_eq_ok, of_a] at same
      simp at same
    | error problem' =>
      rw [of_a, of_b] at alike
      exact .inr ⟨problem, problem', rfl, rfl, Except.error.inj alike⟩

/-- Two malformed sources: the same bracket is missing at different places. -/
theorem evaluate_same_lexemes_unclosed :
    Lexeme.ofSource "[ len , str ( )\n" = Lexeme.ofSource "[len,str()" ∧
      evaluate "[ len , str ( )\n" = .error (.malformed 16 (.unclosed ']')) ∧
      ∃ problem, evaluate "[len,str()" = .error problem ∧
        (Problem.malformed 16 (.unclosed ']')).unplaced = problem.unplaced := by
  have spread : evaluate "[ len , str ( )\n" = .error (.malformed 16 (.unclosed ']')) := by rfl
  have lexemes : Lexeme.ofSource "[ len , str ( )\n" = Lexeme.ofSource "[len,str()" := by
    decide
  refine ⟨lexemes, spread, ?_⟩
  rcases evaluate_same_lexemes lexemes with ⟨v, value, -⟩ | ⟨met, problem, first, second, alike⟩
  · rw [spread] at value
    simp at value
  · rw [spread] at first
    obtain rfl := Except.error.inj first
    exact ⟨problem, second, alike⟩

end Lipogram
