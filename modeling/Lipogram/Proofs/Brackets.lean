import Lipogram.Proofs.Characters
import Lipogram.Proofs.Readings

/-!
# Brackets

Every expression closes the brackets that it opens, and none that it has not opened. So a source
that has a value has as many closing as opening brackets, and a written expression that is cut off
inside a bracket has no value (`Balanced.cut_enclosed`, `excess_of_evaluate`).
-/

set_option autoImplicit false

namespace Lipogram

/-- What a character adds to the number of open brackets. -/
def bracketWeight (c : Char) : Int :=
  if c = '(' ∨ c = '[' then 1 else if c = ')' ∨ c = ']' then -1 else 0

/-- How many brackets some characters open and do not close. -/
def excess : List Char → Int
  | [] => 0
  | c :: cs => bracketWeight c + excess cs

/-- Without characters no bracket is open. -/
@[simp]
theorem excess_nil : excess [] = 0 := rfl

/-- The first character counts with its weight. -/
@[simp]
theorem excess_cons (c : Char) (cs : List Char) :
    excess (c :: cs) = bracketWeight c + excess cs := rfl

/-- The excess of brackets is a sum over the characters. -/
@[simp]
theorem excess_append (cs ds : List Char) : excess (cs ++ ds) = excess cs + excess ds := by
  induction cs with
  | nil => simp
  | cons c cs ih =>
    rw [List.cons_append, excess_cons, excess_cons, ih]
    omega

/-- The order of the characters does not count for their excess. -/
theorem excess_reverse (cs : List Char) : excess cs.reverse = excess cs := by
  induction cs with
  | nil => rfl
  | cons c cs ih =>
    rw [List.reverse_cons, excess_append, ih, excess_cons, excess_cons, excess_nil]
    omega

/-- Characters in which every bracket is closed behind the place where it is opened. -/
structure Balanced (cs : List Char) : Prop where
  never_short : ∀ ds rest, ds ++ rest = cs → 0 ≤ excess ds
  settled : excess cs = 0

namespace Balanced

variable {as cs ds rest : List Char} {opener closer : Char}

/-- Characters without brackets are balanced. -/
theorem of_plain (plain : ∀ c ∈ cs, bracketWeight c = 0) : Balanced cs := by
  have no_brackets : ∀ ds ⊆ cs, excess ds = 0 := by
    intro ds among
    induction ds with
    | nil => rfl
    | cons d ds ih =>
      rw [List.cons_subset] at among
      rw [excess_cons, plain d among.1, ih among.2, Int.add_zero]
  refine ⟨?_, no_brackets cs (List.Subset.refl cs)⟩
  intro ds rest cut
  have plain_cut := no_brackets ds (by simp [← cut])
  omega

/-- Balanced stretches stay balanced behind each other. -/
theorem append (first : Balanced cs) (second : Balanced ds) : Balanced (cs ++ ds) where
  never_short := by
    intro es rest cut
    rcases List.append_eq_append_iff.mp cut with ⟨fs, inside, -⟩ | ⟨fs, rfl, beyond⟩
    · exact first.never_short es fs inside.symm
    · have short := second.never_short fs rest beyond.symm
      rw [excess_append, first.settled]
      omega
  settled := by
    rw [excess_append, first.settled, second.settled, Int.add_zero]

/-- Where a balanced stretch with a bracket behind it is cut off, it is cut off in front of the
bracket or not at all, or else the bracket is open. -/
theorem cut_enclosed (before : Balanced as) (inside : Balanced cs)
    (opens : bracketWeight opener = 1) (cut : ds ++ rest = as ++ opener :: (cs ++ [closer])) :
    (∃ es, ds ++ es = as) ∨ rest = [] ∨ 0 < excess ds := by
  rcases List.append_eq_append_iff.mp cut with ⟨es, outside, -⟩ | ⟨es, rfl, beyond⟩
  · exact .inl ⟨es, outside.symm⟩
  rcases List.cons_eq_append_iff.mp beyond with ⟨rfl, -⟩ | ⟨fs, rfl, beyond⟩
  · exact .inl ⟨[], by simp⟩
  right
  -- behind the opening bracket, only a cut behind the closing one closes it
  rcases List.eq_nil_or_concat rest with rfl | ⟨gs, last, rfl⟩
  · exact .inl rfl
  · right
    have same : cs ++ [closer] = (fs ++ gs) ++ [last] := by simpa using beyond
    have short := inside.never_short fs gs (List.append_inj' same rfl).1.symm
    rw [excess_append, excess_cons, before.settled, opens]
    omega

/-- Balanced characters stay balanced inside one more pair of brackets, behind others. -/
theorem enclose (before : Balanced as) (inside : Balanced cs)
    (opens : bracketWeight opener = 1) (closes : bracketWeight closer = -1) :
    Balanced (as ++ opener :: (cs ++ [closer])) := by
  have settled : excess (as ++ opener :: (cs ++ [closer])) = 0 := by
    simp [before.settled, inside.settled, opens, closes]
  refine ⟨?_, settled⟩
  intro ds rest cut
  rcases before.cut_enclosed inside opens cut with ⟨es, outside⟩ | rfl | isOpen
  · exact before.never_short ds es outside
  · rw [List.append_nil] at cut
    rw [cut]
    omega
  · omega

end Balanced

/-! ## Written expressions -/

/-- A character of a class that brackets do not belong to has no weight. -/
theorem bracketWeight_of_class {p : Char → Bool} {c : Char} (h : p c = true)
    (none : p '(' = false ∧ p '[' = false ∧ p ')' = false ∧ p ']' = false) :
    bracketWeight c = 0 := by
  obtain ⟨round, square, round', square'⟩ := none
  have other {d : Char} (no_member : p d = false) : c ≠ d := by
    apply ne_of_apply_ne p
    rw [h, no_member]
    decide
  simp [bracketWeight, other round, other square, other round', other square']

/-- A name holds no bracket. -/
theorem Name.balanced_text (n : Name) : Balanced n.text.toList := by
  apply Balanced.of_plain
  intro c mem
  exact bracketWeight_of_class (n.continues_of_mem mem) ⟨rfl, rfl, rfl, rfl⟩

open Lexeme

mutual

/-- A written expression closes the brackets that it opens. -/
theorem Expr.balanced (e : Expr) : Balanced (spelling e.lexemes) :=
  match e with
  | .sum first rest => by
    rw [Expr.lexemes, spelling_append]
    exact (Term.balanced first).append (Term.balanced_more rest)

/-- A term is balanced. -/
theorem Term.balanced (t : Term) : Balanced (spelling t.lexemes) :=
  match t with
  | .name n => by
    simpa [Term.lexemes] using n.balanced_text
  | .call n args => by
    simpa [Term.lexemes] using
      n.balanced_text.enclose (Expr.balanced_items args) (by decide : bracketWeight '(' = 1)
        (by decide : bracketWeight ')' = -1)
  | .list items => by
    have empty : Balanced [] := .of_plain (fun c mem => absurd mem List.not_mem_nil)
    simpa [Term.lexemes] using
      empty.enclose (Expr.balanced_items items) (by decide : bracketWeight '[' = 1)
        (by decide : bracketWeight ']' = -1)
  | .pick base index => by
    simpa [Term.lexemes] using
      (Term.balanced base).enclose (Expr.balanced index) (by decide : bracketWeight '[' = 1)
        (by decide : bracketWeight ']' = -1)

/-- The terms behind the first one of a sum are balanced. -/
theorem Term.balanced_more (ts : List Term) : Balanced (spelling (Term.moreLexemes ts)) :=
  match ts with
  | [] => .of_plain (fun c mem => absurd mem List.not_mem_nil)
  | t :: ts => by
    have plus : Balanced ['+'] := .of_plain (List.forall_mem_singleton.mpr rfl)
    simpa [Term.moreLexemes] using plus.append ((Term.balanced t).append (Term.balanced_more ts))

/-- The items in a bracket are balanced. -/
theorem Expr.balanced_items (es : List Expr) : Balanced (spelling (Expr.itemLexemes es)) :=
  match es with
  | [] => .of_plain (fun c mem => absurd mem List.not_mem_nil)
  | [e] => Expr.balanced e
  | e :: e' :: es => by
    have comma : Balanced [','] := .of_plain (List.forall_mem_singleton.mpr rfl)
    simpa [Expr.itemLexemes] using
      (Expr.balanced e).append (comma.append (Expr.balanced_items (e' :: es)))

end

/-- The written form of an expression is balanced. -/
theorem Expr.balanced_text (e : Expr) : Balanced e.text.toList := by
  rw [← e.spelling_lexemes]
  exact e.balanced

/-- The written form of a term is balanced. -/
theorem Term.balanced_text (t : Term) : Balanced t.text.toList := by
  rw [← t.spelling_lexemes]
  exact t.balanced

/-! ## Sources -/

/-- Scanning leaves no bracket out. -/
theorem Lexeme.excess_scan (letters cs : List Char) :
    excess (spelling (scan letters cs)) = excess letters + excess cs := by
  have ended (letters : List Char) : excess (spelling (scan.ended letters)) = excess letters := by
    rw [spelling_ended, excess_reverse]
  induction cs generalizing letters with
  | nil =>
    rw [excess_nil, Int.add_zero]
    exact ended letters
  | cons c cs ih =>
    have alone := ih []
    rw [excess_nil, Int.zero_add] at alone
    rw [scan, excess_cons]
    by_cases inside : (if letters.isEmpty then startsName c else continuesName c) = true
    · rw [if_pos inside, ih, excess_cons]
      omega
    · rw [if_neg inside]
      split
      · next blank =>
        have no_bracket : bracketWeight c = 0 :=
          bracketWeight_of_class blank ⟨rfl, rfl, rfl, rfl⟩
        rw [spelling_append, excess_append, ended, alone, no_bracket]
        omega
      · rw [spelling_append, excess_append, ended, spelling_cons, characters_mark, excess_append,
          alone]
        simp

/-- A source that has a value has as many closing as opening brackets. -/
theorem excess_of_evaluate {source : String} {v : Value} (h : evaluate source = .ok v) :
    excess source.toList = 0 := by
  obtain ⟨e, read, -, -⟩ := exists_reading h
  calc
    excess source.toList = excess (spelling (ofSource source)) := by
      rw [ofSource, excess_scan, excess_nil, Int.zero_add]
    _ = excess (spelling e.lexemes) := by rw [read]
    _ = 0 := e.balanced.settled

end Lipogram
