import Lipogram.Proofs.Characters
import Lipogram.Proofs.Readings
import Lipogram.Proofs.RoundTrip

/-!
# What the basic alphabet can express

Over the characters of basic encodings exactly the texts that are not empty can be expressed. Each
of them has a basic encoding. For the converse, only three built-ins can be named, and none of them
makes an empty text out of values in which there is no empty text.
-/

set_option autoImplicit false

namespace Lipogram

/-! ## Texts that are not empty -/

/-- A value in which no text is empty, not even inside lists. -/
inductive Value.Filled : Value → Prop where
  | int (n : Int) : Filled (.int n)
  | bool (b : Bool) : Filled (.bool b)
  | builtin (f : Builtin) : Filled (.builtin f)
  | str {s : String} (nonempty : s ≠ "") : Filled (.str s)
  | list {items : List Value} (filled : ∀ v ∈ items, Filled v) : Filled (.list items)

namespace Value

/-- A filled text is not empty. -/
theorem Filled.text_ne {s : String} (filled : Filled (.str s)) : s ≠ "" := by
  cases filled with
  | str nonempty => exact nonempty

/-- The items of a filled list are filled. -/
theorem Filled.of_mem {items : List Value} {v : Value} (filled : Filled (.list items))
    (mem : v ∈ items) : Filled v := by
  cases filled with
  | list filled => exact filled v mem

/-- The text of a character is not empty. -/
theorem char_text_ne (c : Char) : c.toString ≠ "" := by
  intro empty
  have letters := congrArg String.toList empty
  simp at letters

/-- Sums of filled values are filled. -/
theorem add_filled {a b : Value} (left : Filled a) (right : Filled b) :
    Holds Filled (fun _ => True) (a.add b) := by
  rcases add_cases a b with ⟨c, sum, adds⟩ | clash
  · rw [sum]
    cases adds with
    | texts s t =>
      refine .str (fun empty => left.text_ne ?_)
      exact (String.append_eq_empty_iff.mp empty).1
    | lists vs ws =>
      refine .list (fun v mem => ?_)
      rcases List.mem_append.mp mem with mem | mem
      · exact left.of_mem mem
      · exact right.of_mem mem
    | integers _ _ => exact .int _
  · rw [clash]
    trivial

/-- An item that an index points to is one of the items. -/
theorem itemAt_mem {α : Type} (items : List α) (index : Int) :
    Holds (· ∈ items) (fun _ => True) (itemAt items index) := by
  unfold itemAt
  split
  · next item found =>
    obtain ⟨place, -, there⟩ := Option.bind_eq_some_iff.mp found
    exact List.mem_of_getElem? there
  · trivial

/-- What is picked from a filled value is filled. -/
theorem pick_filled {base : Value} (filled : Filled base) (index : Value) :
    Holds Filled (fun _ => True) (base.pick index) := by
  unfold pick
  split
  · trivial
  · next n _ =>
    split
    · exact (itemAt_mem _ n).map (fun c _ => .str (char_text_ne c))
    · next items =>
      have picked := itemAt_mem items n
      cases found : itemAt items n with
      | ok v => exact filled.of_mem (picked.of_eq_ok found)
      | error problem => trivial
    · trivial

/-- The character of a code is filled. -/
theorem character_filled (code : Value) : Holds Filled (fun _ => True) code.character := by
  unfold character
  split
  · trivial
  · split
    · exact .str (char_text_ne _)
    · trivial

/-- Lengths are filled. -/
theorem length_filled (v : Value) : Holds Filled (fun _ => True) v.length := by
  unfold length
  split
  · exact .int _
  · exact .int _
  · trivial

end Value

/-- The built-ins whose names have only letters of the basic alphabet. -/
def Builtin.IsBasic (f : Builtin) : Prop :=
  f = bool ∨ f = chr ∨ f = len

/-- What a built-in gives that can be spelled with the basic alphabet is filled. -/
theorem Builtin.call_filled {f : Builtin} (basic : f.IsBasic) (args : List Value) :
    Holds Value.Filled (fun _ => True) (f.call args) := by
  rcases basic with rfl | rfl | rfl
  · rcases args with _ | ⟨v, _ | ⟨w, rest⟩⟩
    · exact .bool false
    · exact .bool v.isTruthy
    · trivial
  · rcases args with _ | ⟨v, _ | ⟨w, rest⟩⟩
    · trivial
    · exact v.character_filled
    · trivial
  · rcases args with _ | ⟨v, _ | ⟨w, rest⟩⟩
    · trivial
    · exact v.length_filled
    · trivial

/-- The operations make no empty text without the built-ins that the basic alphabet cannot name. -/
theorem kept_filled : Kept Builtin.IsBasic Value.Filled (fun _ => True) where
  unknownName _ := trivial
  builtin f _ := .builtin f
  list _ filled := .list filled
  call _ args basic _ := Builtin.call_filled basic args
  add _ _ := Value.add_filled
  pick _ index filled _ := Value.pick_filled filled index

namespace Encoding

open Lexeme

/-- Lexemes that are spelled with characters of the basic alphabet only. -/
def IsBasic (ls : List Lexeme) : Prop :=
  ∀ c ∈ spelling ls, c ∈ basicAlphabet.toList

/-- Lexemes of the basic alphabet stay so behind each other. -/
theorem IsBasic.append {ls ms : List Lexeme} (left : IsBasic ls) (right : IsBasic ms) :
    IsBasic (ls ++ ms) := by
  intro c mem
  rw [spelling_append] at mem
  rcases List.mem_append.mp mem with mem | mem
  · exact left c mem
  · exact right c mem

/-- One more lexeme of the basic alphabet may stand in front. -/
theorem IsBasic.cons {l : Lexeme} {ls : List Lexeme} (first : IsBasic [l]) (rest : IsBasic ls) :
    IsBasic (l :: ls) :=
  first.append rest

/-- Lexemes are of the basic alphabet if all their characters are. -/
theorem IsBasic.of_all {ls : List Lexeme}
    (h : (spelling ls).all (basicAlphabet.toList.contains ·) = true) : IsBasic ls := by
  intro c mem
  have inside := List.all_eq_true.mp h c mem
  simpa using inside

/-- Among characters of the basic alphabet, only three built-ins are named. -/
theorem onlyKnown_of_basic {ls : List Lexeme} (basic : IsBasic ls) :
    OnlyKnown Builtin.IsBasic ls := by
  intro n mem f found
  obtain rfl := Name.eq_of_builtin found
  have letters : ∀ c ∈ f.toName.text.toList, c ∈ basicAlphabet.toList := by
    intro c letter
    apply basic
    rw [← Name.characters_lexeme] at letter
    exact List.mem_flatMap.mpr ⟨_, mem, letter⟩
  unfold Builtin.IsBasic
  cases f with
  | bool => exact .inl rfl
  | chr => exact .inr (.inl rfl)
  | len => exact .inr (.inr rfl)
  | hash => exact absurd (letters 'a' (by decide)) (by decide)
  | repr => exact absurd (letters 'p' (by decide)) (by decide)
  | str => exact absurd (letters 's' (by decide)) (by decide)
  | type => exact absurd (letters 't' (by decide)) (by decide)

/-- A source over the basic alphabet has no value in which a text is empty. -/
theorem filled_of_evaluate {source : String} {v : Value}
    (basic : ∀ c ∈ source.toList, c ∈ basicAlphabet.toList) (h : evaluate source = .ok v) :
    v.Filled := by
  obtain ⟨e, read, -, value⟩ := exists_reading h
  have spelled : IsBasic e.lexemes := by
    intro c mem
    rw [read] at mem
    exact basic c ((spelling_ofSource source).subset mem)
  exact (e.value_holds kept_filled (onlyKnown_of_basic spelled)).of_eq_ok value

/-! ## Basic encodings -/

/-- Repeated empty lists need no more than the basic alphabet. -/
theorem basic_replicate_nothing (n : Nat) :
    IsBasic (Expr.itemLexemes (List.replicate n Numeral.nothing)) := by
  have brackets : IsBasic Numeral.nothing.lexemes := .of_all rfl
  have comma : IsBasic [.mark ','] := .of_all rfl
  induction n with
  | zero => exact fun c mem => absurd mem List.not_mem_nil
  | succ n ih =>
    cases n with
    | zero => exact brackets
    | succ n => exact brackets.append (comma.cons ih)

/-- A numeral is spelled with characters of the basic alphabet. -/
theorem basic_numeral (n : Nat) : IsBasic (Numeral.expr n).lexemes := by
  have name : IsBasic [(if n = 1 then Builtin.bool else Builtin.len).toName.lexeme] := by
    by_cases one : n = 1
    · rw [if_pos one]
      exact .of_all rfl
    · rw [if_neg one]
      exact .of_all rfl
  have opening : IsBasic [.mark '(', .mark '['] := .of_all rfl
  have closing : IsBasic [.mark ']', .mark ')'] := .of_all rfl
  have items := (opening.append (basic_replicate_nothing n)).append closing
  simpa [Numeral.expr, Numeral.term, Numeral.tally, Term.toExpr, Expr.lexemes, Term.lexemes,
    Term.moreLexemes, Expr.itemLexemes] using name.cons items

/-- A counted character needs no more than the basic alphabet. -/
theorem basic_counted (c : Char) : IsBasic (counted c).lexemes := by
  have opening : IsBasic [Builtin.chr.toName.lexeme, .mark '('] := .of_all rfl
  have closing : IsBasic [.mark ')'] := .of_all rfl
  exact opening.append ((basic_numeral c.toNat).append closing)

/-- Neither do the counted characters behind the first one of a sum. -/
theorem basic_more_counted (cs : List Char) :
    IsBasic (Term.moreLexemes (cs.map (term .basic))) := by
  have plus : IsBasic [.mark '+'] := .of_all rfl
  induction cs with
  | nil => exact fun c mem => absurd mem List.not_mem_nil
  | cons c cs ih => exact plus.append ((basic_counted c).append ih)

/-- The basic encoding of a text that is not empty is written with the basic alphabet. -/
theorem basic_encode {text : String} (nonempty : text ≠ "") :
    ∀ c ∈ (encode .basic text).toList, c ∈ basicAlphabet.toList := by
  have spelled : IsBasic (encodeExpr .basic text).lexemes := by
    show IsBasic (sum (text.toList.map (term .basic))).lexemes
    cases letters : text.toList with
    | nil => exact absurd (String.toList_eq_nil_iff.mp letters) nonempty
    | cons c cs => exact (basic_counted c).append (basic_more_counted cs)
  rw [encode_eq_text, ← Expr.spelling_lexemes]
  exact spelled

end Encoding

/-- Exactly the texts that are not empty are values of sources over the basic alphabet. -/
theorem basicAlphabet_expresses (s : String) :
    (∃ source : String, (∀ c ∈ source.toList, c ∈ Encoding.basicAlphabet.toList) ∧
      evaluateText source = .ok s) ↔ s ≠ "" := by
  constructor
  · rintro ⟨source, basic, value⟩
    rw [evaluateText_eq_ok] at value
    exact (Encoding.filled_of_evaluate basic value).text_ne
  · intro nonempty
    refine ⟨encode .basic s, Encoding.basic_encode nonempty, ?_⟩
    rw [evaluateText_eq_ok]
    exact evaluate_encode .basic s

end Lipogram
