import Lipogram.Proofs.Brackets
import Lipogram.Proofs.Composites
import Lipogram.Proofs.Parts
import Lipogram.Proofs.TermEnds

/-!
# Truncated encodings

What an encoding evaluates to when it is cut off anywhere. Behind a whole part it evaluates to the
text so far. Inside a part there is an open bracket, or a name or its beginning at the end, and no
text comes out; only behind the printed form that a part of the glossary picks its letter from, that
form is taken as it is (`evaluateText_cut`).
-/

set_option autoImplicit false

namespace Lipogram

namespace Encoding

/-! ## Sums with one more term -/

/-- Some parts with a plus sign behind each of them. -/
def sumSoFar (ps : List String) : String :=
  String.join (ps.map (· ++ "+"))

/-- The first part comes first, with a plus sign behind it. -/
theorem sumSoFar_cons (p : String) (ps : List String) :
    sumSoFar (p :: ps) = p ++ "+" ++ sumSoFar ps := by
  simp [sumSoFar]

/-- The last part has no plus sign behind it. -/
theorem intercalate_concat (ps : List String) (p : String) :
    "+".intercalate (ps ++ [p]) = sumSoFar ps ++ p := by
  induction ps with
  | nil => simp [sumSoFar]
  | cons first ps ih =>
    have more : ps ++ [p] ≠ [] := by simp
    rw [List.cons_append, String.intercalate_cons_of_ne_nil more, ih, sumSoFar_cons]
    simp only [String.append_assoc]

variable (mode : Mode) (cs : List Char) (t : Term)

/-- A term behind the terms of some characters is added to their text. -/
theorem sum_concat_value :
    (sum (cs.map (term mode) ++ [t])).value =
      if cs = [] then t.value else t.value.bind (Value.str (String.ofList cs)).add := by
  cases cs with
  | nil => exact Term.toExpr_value t
  | cons c cs =>
    have text : c.toString ++ String.ofList cs = String.ofList (c :: cs) :=
      String.ofList_cons.symm
    rw [if_neg (List.cons_ne_nil c cs), List.map_cons, List.cons_append, sum, Expr.value,
      term_value, ok_bind, Term.addAll_append, addAll_value, ok_bind, text, Term.addAll]
    have last : Term.addAll [] = .ok := rfl
    simp only [last, bind_ok]

/-- Parts with one more term of their depth make a sum that is no deeper. -/
theorem sum_concat_depth (h : t.depth ≤ 3) : (sum (cs.map (term mode) ++ [t])).depth ≤ 3 := by
  cases cs with
  | nil =>
    show t.toExpr.depth ≤ 3
    rwa [Term.toExpr_depth]
  | cons c cs =>
    have first := term_depth mode c
    have rest := depths_le mode cs
    rw [List.map_cons, List.cons_append, sum, Expr.depth, Term.depths_append]
    simp only [Term.depths]
    omega

variable {t} {w : String}

/-- A source of some parts and one more term has the value of the sum. -/
theorem evaluate_concat (h : t.depth ≤ 3) :
    evaluate (sumSoFar (partsOf mode cs) ++ t.text) = (sum (cs.map (term mode) ++ [t])).value := by
  have written : (sum (cs.map (term mode) ++ [t])).text = sumSoFar (partsOf mode cs) ++ t.text := by
    have some_term : cs.map (term mode) ++ [t] ≠ [] := by simp
    rw [sum_text_of_ne_nil some_term, List.map_append, List.map_map]
    exact intercalate_concat (partsOf mode cs) t.text
  rw [← written]
  exact evaluate_shallow (sum_concat_depth mode cs t h)

/-- The text of one more term is joined to the text so far. -/
theorem evaluate_concat_text (h : t.depth ≤ 3) (value : t.value = .ok (.str w)) :
    evaluate (sumSoFar (partsOf mode cs) ++ t.text) = .ok (.str (String.ofList cs ++ w)) := by
  rw [evaluate_concat mode cs h, sum_concat_value, value, ok_bind, Value.add]
  split
  · next none => simp [none]
  · rfl

/-- No text comes out of a sum whose last term is none. -/
theorem evaluate_concat_ne_text (h : t.depth ≤ 3) (no_text : ∀ w, t.value ≠ .ok (.str w))
    (s : String) : evaluate (sumSoFar (partsOf mode cs) ++ t.text) ≠ .ok (.str s) := by
  rw [evaluate_concat mode cs h, sum_concat_value]
  split
  · exact no_text s
  · intro sum
    obtain ⟨v, value, added⟩ := bind_eq_ok.mp sum
    cases v with
    | str w => exact no_text w value
    | _ => simp [Value.add, Value.toInt?] at added

end Encoding

/-! ## Cuts of terms -/

/-- A beginning of a name is a name. -/
theorem Name.exists_of_cut (n : Name) {ds rest : List Char} (cut : ds ++ rest = n.text.toList)
    (some_letter : ds ≠ []) : ∃ m : Name, m.text.toList = ds := by
  unfold text at cut
  rw [String.toList_ofList] at cut
  cases ds with
  | nil => exact absurd rfl some_letter
  | cons d ds =>
    rw [List.cons_append] at cut
    obtain ⟨rfl, tail⟩ := List.cons.inj cut
    have continues := n.rest_continues
    rw [← tail, List.all_append, Bool.and_eq_true] at continues
    refine ⟨⟨n.first, ds, n.first_starts, continues.1⟩, ?_⟩
    unfold text
    rw [String.toList_ofList]

/-- A name alone has no text for its value. -/
theorem Term.name_ne_text (n : Name) (w : String) : (name n).value ≠ .ok (.str w) := by
  rw [value]
  cases n.builtin <;> simp

/-- A cut through a call leaves a part of its name, all of it, or an open bracket. -/
theorem Term.cut_call {n : Name} {e : Expr} {ds rest : List Char}
    (cut : ds ++ rest = (call n [e]).text.toList) :
    (∃ es, ds ++ es = n.text.toList) ∨ rest = [] ∨ 0 < excess ds := by
  have enclosed : ds ++ rest = n.text.toList ++ '(' :: (e.text.toList ++ [')']) := by
    simpa [text] using cut
  exact n.balanced_text.cut_enclosed e.balanced_text (by decide) enclosed

/-- A cut through a subscript leaves a part of its base, all of it, or an open bracket. -/
theorem Term.cut_pick {base : Term} {index : Expr} {ds rest : List Char}
    (cut : ds ++ rest = (pick base index).text.toList) :
    (∃ es, ds ++ es = base.text.toList) ∨ rest = [] ∨ 0 < excess ds := by
  have enclosed : ds ++ rest = base.text.toList ++ '[' :: (index.text.toList ++ [']']) := by
    simpa [text] using cut
  exact base.balanced_text.cut_enclosed index.balanced_text (by decide) enclosed

namespace Encoding

open Glossary

/-- Where the term of a character is cut off, a name is cut off or has just ended, or a bracket is
open, or a built-in has just been printed that a letter is to be picked from. -/
theorem cut_term {mode : Mode} {c : Char} {ds rest : List Char}
    (cut : ds ++ rest = (term mode c).text.toList) (inside : rest ≠ []) :
    (∃ (n : Name) (es : List Char), ds ++ es = n.text.toList) ∨ 0 < excess ds ∨
      (mode = .advanced ∧ ∃ e, find? c = some e ∧ ds = (printed e.source).text.toList) := by
  have cut_counted (cut : ds ++ rest = (counted c).text.toList) :
      (∃ (n : Name) (es : List Char), ds ++ es = n.text.toList) ∨ 0 < excess ds := by
    rcases Term.cut_call cut with name | whole | isOpen
    · exact .inl ⟨_, name⟩
    · exact absurd whole inside
    · exact .inr isOpen
  cases mode with
  | basic => exact (cut_counted cut).imp_right .inl
  | advanced =>
    have looked_up : term .advanced c = ((find? c).map Entry.term).getD (counted c) := rfl
    rw [looked_up] at cut
    cases found : find? c with
    | none =>
      rw [found] at cut
      exact (cut_counted cut).imp_right .inl
    | some e =>
      rw [found] at cut
      rcases Term.cut_pick cut with ⟨es, base⟩ | whole | isOpen
      · rcases Term.cut_call base with name | rfl | isOpen
        · exact .inl ⟨_, name⟩
        · rw [List.append_nil] at base
          exact .inr (.inr ⟨rfl, e, rfl, base⟩)
        · exact .inr (.inl isOpen)
      · exact absurd whole inside
      · exact .inr (.inl isOpen)

/-! ## Cuts of encodings -/

/-- Where joined parts are cut off, some of them are whole, and they are all there is, or there is a
plus sign behind each of them and a part that is cut off. -/
theorem cut_parts {ps : List String} (nonempty : ps ≠ []) {ds rest : List Char}
    (cut : ds ++ rest = ("+".intercalate ps).toList) :
    (∃ k, 0 < k ∧ k ≤ ps.length ∧ ds = ("+".intercalate (ps.take k)).toList) ∨
      ∃ k p es fs, ps[k]? = some p ∧ es ++ fs = p.toList ∧ fs ≠ [] ∧
        ds = (sumSoFar (ps.take k)).toList ++ es := by
  induction ps generalizing ds with
  | nil => exact absurd rfl nonempty
  | cons p ps ih =>
    -- a cut in the first part or right behind it
    have in_first (es : List Char) (first : ds ++ es = p.toList) :
        (∃ k, 0 < k ∧ k ≤ (p :: ps).length ∧
          ds = ("+".intercalate ((p :: ps).take k)).toList) ∨
        ∃ k q es fs, (p :: ps)[k]? = some q ∧ es ++ fs = q.toList ∧ fs ≠ [] ∧
          ds = (sumSoFar ((p :: ps).take k)).toList ++ es := by
      by_cases whole : es = []
      · refine .inl ⟨1, by omega, by simp, ?_⟩
        rw [whole, List.append_nil] at first
        simpa using first
      · exact .inr ⟨0, p, ds, es, rfl, first, whole, by simp [sumSoFar]⟩
    by_cases last : ps = []
    · refine in_first rest ?_
      simpa [last] using cut
    · have plus : "+".toList = ['+'] := rfl
      rw [String.intercalate_cons_of_ne_nil last, String.append_assoc, String.toList_append,
        String.toList_append, plus, List.singleton_append] at cut
      rcases List.append_eq_append_iff.mp cut with ⟨es, first, -⟩ | ⟨es, rfl, beyond⟩
      · exact in_first es first.symm
      rcases List.cons_eq_append_iff.mp beyond with ⟨rfl, -⟩ | ⟨fs, rfl, in_rest⟩
      · exact in_first [] (by simp)
      rcases ih last in_rest.symm with
        ⟨k, pos, bound, rfl⟩ | ⟨k, q, es, gs, there, part, cut_off, rfl⟩
      · refine .inl ⟨k + 1, by omega, by simpa using bound, ?_⟩
        have some_part : ps.take k ≠ [] := by
          simp [last]
          omega
        rw [List.take_succ_cons, String.intercalate_cons_of_ne_nil some_part]
        simp
      · refine .inr ⟨k + 1, q, es, gs, there, part, cut_off, ?_⟩
        rw [List.take_succ_cons, sumSoFar_cons]
        simp

/-- Whole parts leave no bracket open. -/
theorem excess_sumSoFar (mode : Mode) (cs : List Char) :
    excess (sumSoFar (partsOf mode cs)).toList = 0 := by
  induction cs with
  | nil => rfl
  | cons c cs ih =>
    have part := (term mode c).balanced_text.settled
    have plus : bracketWeight '+' = 0 := by decide
    have first : partsOf mode (c :: cs) = (term mode c).text :: partsOf mode cs := rfl
    rw [first, sumSoFar_cons]
    simp [part, plus, ih]

variable {mode : Mode} {text p rest : String}

/-- A source that ends in a plus sign, or is empty, has no value. -/
theorem evaluate_sumSoFar_ne_ok (ps : List String) (v : Value) :
    evaluate (sumSoFar ps) ≠ .ok v := by
  rcases List.eq_nil_or_concat ps with rfl | ⟨ps, last, rfl⟩
  · have empty : evaluate (sumSoFar []) = .error (.malformed 0 .unexpectedEnd) := by rfl
    simp [empty]
  · have ends : (sumSoFar (ps ++ [last])).toList = (sumSoFar ps ++ last).toList ++ ['+'] := by
      simp [sumSoFar]
    rw [List.concat_eq_append, evaluate, ends, Reader.read_append]
    exact Reader.finish_read_plus _ v

/-- Where a text comes out of an encoding that is cut off inside a part, a built-in has just been
printed. -/
theorem printed_of_evaluate {cs : List Char} {c : Char} {es fs : List Char} {s : String}
    (cut : es ++ fs = (term mode c).text.toList) (cut_off : fs ≠ [])
    (value : evaluate (sumSoFar (partsOf mode cs) ++ String.ofList es) = .ok (.str s)) :
    mode = .advanced ∧ ∃ e, find? c = some e ∧ es = (printed e.source).text.toList := by
  rcases cut_term cut cut_off with ⟨n, gs, name⟩ | isOpen | is_printed
  -- what is left of a name is nothing, or a name again: its value is no text
  · by_cases none : es = []
    · have ends : sumSoFar (partsOf mode cs) ++ String.ofList es = sumSoFar (partsOf mode cs) := by
        simp [none]
      rw [ends] at value
      exact absurd value (evaluate_sumSoFar_ne_ok _ _)
    · obtain ⟨m, rfl⟩ := n.exists_of_cut name none
      have named : String.ofList m.text.toList = (Term.name m).text := by
        rw [String.ofList_toList, Term.text]
      have shallow : (Term.name m).depth ≤ 3 := Nat.zero_le 3
      rw [named] at value
      exact absurd value (evaluate_concat_ne_text mode cs shallow (Term.name_ne_text m) s)
  · have closed := excess_of_evaluate value
    rw [String.toList_append, excess_append, excess_sumSoFar, String.toList_ofList] at closed
    omega
  · exact is_printed

/-- A cut behind a whole part: `p` is the first parts of the encoding of `text`, at least one, and
`s` is as many characters of what the encoding stands for. -/
def IsCutBehindPart (mode : Mode) (text p s : String) : Prop :=
  ∃ k, 0 < k ∧ k ≤ (parts (encode mode text)).length ∧
    p = "+".intercalate ((parts (encode mode text)).take k) ∧
    s = String.ofList ((mode.output text).toList.take k)

/-- A cut behind a built-in that is printed: `p` is the first parts of the advanced encoding of
`text`, none or more, with a plus sign behind each, and the beginning of a part of the glossary up
to its closing parenthesis; and `s` is as many characters of what the encoding stands for and the
printed form. -/
def IsCutBehindPrinted (mode : Mode) (text p s : String) : Prop :=
  mode = .advanced ∧ ∃ k c e, (mode.output text).toList[k]? = some c ∧ find? c = some e ∧
    p = sumSoFar ((parts (encode mode text)).take k) ++ ("str(" ++ e.source.name ++ ")") ∧
    s = String.ofList ((mode.output text).toList.take k) ++ e.source.text

/-- The first parts of an encoding are those of the first characters. -/
theorem parts_take (nonempty : text ≠ "") (k : Nat) :
    (parts (encode mode text)).take k = partsOf mode ((mode.output text).toList.take k) := by
  rw [parts_encode nonempty, partsOf, partsOf, List.map_take]

/-- A printed built-in is written as a call of `str` with its name. -/
theorem printed_text (f : Builtin) : (printed f).text = "str(" ++ f.name ++ ")" := by
  have name : Builtin.str.name ++ "(" = "str(" := by rfl
  simp [printed, Term.text, Term.toExpr_text, text_toName, name]

/-- A cut behind a part evaluates to the text of the parts in front of it. -/
theorem evaluate_cut_behind_part (nonempty : text ≠ "") {s : String}
    (h : IsCutBehindPart mode text p s) : evaluate p = .ok (.str s) := by
  obtain ⟨k, pos, -, rfl, rfl⟩ := h
  have some_letter : (mode.output text).toList.take k ≠ [] := by
    have output := mode.output_ne_nil nonempty
    simp only [ne_eq, List.take_eq_nil_iff, not_or]
    exact ⟨by omega, output⟩
  rw [parts_take nonempty]
  exact evaluate_partsOf mode some_letter

/-- A cut behind a printed built-in evaluates to the text in front of it and the whole printed
text. -/
theorem evaluate_cut_behind_printed (nonempty : text ≠ "") {s : String}
    (h : IsCutBehindPrinted mode text p s) : evaluate p = .ok (.str s) := by
  obtain ⟨-, k, c, e, -, -, rfl, rfl⟩ := h
  have shallow : (printed e.source).depth ≤ 3 := by
    unfold printed
    rw [Term.call_depth, Term.toExpr_depth, Term.depth]
    omega
  rw [parts_take nonempty, ← printed_text]
  exact evaluate_concat_text mode _ shallow (printed_value e.source)

/-- Where the beginning of an encoding evaluates to a text, it is cut off behind a part or behind a
built-in that is printed. -/
theorem cut_of_evaluate (nonempty : text ≠ "") (cut : p ++ rest = encode mode text) {s : String}
    (value : evaluate p = .ok (.str s)) :
    IsCutBehindPart mode text p s ∨ IsCutBehindPrinted mode text p s := by
  have some_part : partsOf mode (mode.output text).toList ≠ [] := by
    simpa [partsOf] using mode.output_ne_nil nonempty
  have letters : p.toList ++ rest.toList =
      ("+".intercalate (partsOf mode (mode.output text).toList)).toList := by
    rw [← encode_eq_parts nonempty, ← cut, String.toList_append]
  rcases cut_parts some_part letters with
    ⟨k, pos, bound, whole⟩ | ⟨k, part, es, fs, there, cut_part, cut_off, ends⟩
  · left
    have p_eq : p = "+".intercalate ((parts (encode mode text)).take k) := by
      rw [parts_encode nonempty]
      exact String.toList_injective whole
    have inside : k ≤ (parts (encode mode text)).length := by rwa [parts_encode nonempty]
    have own := evaluate_cut_behind_part nonempty ⟨k, pos, inside, p_eq, rfl⟩
    exact ⟨k, pos, inside, p_eq, Value.str.inj (Except.ok.inj (value.symm.trans own))⟩
  · right
    -- the form of the source is known now, and its value is computed from there
    rw [partsOf, List.getElem?_map, Option.map_eq_some_iff] at there
    obtain ⟨c, there, rfl⟩ := there
    have p_eq : p = sumSoFar ((parts (encode mode text)).take k) ++ String.ofList es := by
      apply String.toList_injective
      rw [parts_encode nonempty, String.toList_append, String.toList_ofList]
      exact ends
    have in_part := value
    rw [p_eq, parts_take nonempty] at in_part
    obtain ⟨advanced, e, found, rfl⟩ := printed_of_evaluate cut_part cut_off in_part
    rw [String.ofList_toList, printed_text] at p_eq
    have own := evaluate_cut_behind_printed nonempty ⟨advanced, k, c, e, there, found, p_eq, rfl⟩
    exact ⟨advanced, k, c, e, there, found, p_eq,
      Value.str.inj (Except.ok.inj (value.symm.trans own))⟩

end Encoding

open Encoding

/-- The beginnings of an encoding that evaluate to a text are those that end behind a whole part,
and in advanced mode those that end behind a built-in that is printed. So a basic encoding that is
cut off never evaluates to anything but a beginning of the text. -/
theorem evaluateText_cut {mode : Mode} {text p rest : String} (nonempty : text ≠ "")
    (cut : p ++ rest = encode mode text) :
    (∀ s, evaluateText p = .ok s ↔
      IsCutBehindPart mode text p s ∨ IsCutBehindPrinted mode text p s) ∧
    (mode = .basic → ∀ s, evaluateText p = .ok s → s.toList <+: text.toList) := by
  have outcome (s : String) : evaluateText p = .ok s ↔
      IsCutBehindPart mode text p s ∨ IsCutBehindPrinted mode text p s := by
    rw [evaluateText_eq_ok]
    constructor
    · exact cut_of_evaluate nonempty cut
    · rintro (behind | behind)
      · exact evaluate_cut_behind_part nonempty behind
      · exact evaluate_cut_behind_printed nonempty behind
  refine ⟨outcome, ?_⟩
  rintro rfl s value
  rcases (outcome s).mp value with ⟨k, -, -, -, rfl⟩ | ⟨advanced, -⟩
  · rw [String.toList_ofList]
    exact List.take_prefix k _
  · simp at advanced

/-- The second of two letters is cut off where it would be picked. -/
theorem evaluateText_cut_printed :
    "bu" ≠ "" ∧
      "str(len)[bool([[]])]+str(len)" ++ "[len([[],[]])]" = encode .advanced "bu" ∧
      evaluateText "str(len)[bool([[]])]+str(len)" = .ok "b<built-in function len>" := by
  have nonempty : "bu" ≠ "" := by decide
  have cut : "str(len)[bool([[]])]+str(len)" ++ "[len([[],[]])]" = encode .advanced "bu" := by
    decide +kernel
  have behind : IsCutBehindPrinted .advanced "bu" "str(len)[bool([[]])]+str(len)"
      "b<built-in function len>" := by
    refine ⟨rfl, 1, 'u', ⟨'u', .len, 2⟩, rfl, rfl, ?_, rfl⟩
    rw [parts_take nonempty]
    decide +kernel
  exact ⟨nonempty, cut, ((evaluateText_cut nonempty cut).1 _).mpr (.inr behind)⟩

end Lipogram
