import Lipogram.Proofs.Numerals
import Lipogram.Proofs.Renderings
import Lipogram.Proofs.TwoPhases

/-!
# Round trips

The encoding of a text evaluates to the text that the mode stands for. A term evaluates to the text
of its one character, whether it counts up to the code or picks from a printed form; a sum of terms
evaluates to the text of all characters; and no encoding is too deep to be evaluated.
-/

set_option autoImplicit false

namespace Lipogram

/-- The code of a character stands for that character. -/
theorem charOfCode_toNat (c : Char) : charOfCode? (c.toNat : Int) = some c := by
  have valid : c.toNat.isValidChar := c.valid
  unfold charOfCode?
  rw [dif_pos ⟨Int.natCast_nonneg _, by simpa using valid⟩]
  exact congrArg some (Char.ext rfl)

/-- A number points to its place in a sequence, or behind the end of the sequence. -/
theorem itemAt_nat {α : Type} (items : List α) (n : Nat) :
    Value.itemAt items (n : Int) =
      match items[n]? with
      | some item => .ok item
      | none => .error (.outOfRange n items.length) := by
  have place : position? (n : Int) items.length = if n < items.length then some n else none := by
    have forwards : ¬(n : Int) < 0 := by omega
    simp [position?, forwards]
  rw [Value.itemAt, place]
  by_cases inside : n < items.length
  · rw [if_pos inside, Option.bind_some, List.getElem?_eq_getElem inside]
  · rw [if_neg inside, Option.bind_none, List.getElem?_eq_none (Nat.le_of_not_lt inside)]

/-- The text of a value that stands for a number is a character with that code. -/
theorem character_of_toInt {v : Value} {c : Char} (h : v.toInt = .ok (c.toNat : Int)) :
    v.character = .ok (.str c.toString) := by
  unfold Value.character
  rw [h]
  simp only [charOfCode_toNat]

/-- What an index that stands for a number picks from a text. -/
theorem pick_of_nat (s : String) {index : Value} {n : Nat} (h : index.toInt = .ok (n : Int)) :
    (Value.str s).pick index =
      match s.toList[n]? with
      | some c => .ok (.str c.toString)
      | none => .error (.outOfRange n s.length) := by
  rw [Value.pick, h]
  simp only [itemAt_nat, String.length_toList]
  cases s.toList[n]? <;> rfl

namespace Encoding

/-- Counting up to the code of a character gives its text. -/
theorem counted_value (c : Char) : (counted c).value = .ok (.str c.toString) := by
  unfold counted
  rw [Term.call_value, Numeral.expr_value, ok_bind]
  exact character_of_toInt (Numeral.value_toInt c.toNat)

/-- A counted character is at most three levels deep. -/
theorem counted_depth (c : Char) : (counted c).depth ≤ 3 := by
  unfold counted
  rw [Term.call_depth]
  have inside := Numeral.expr_depth c.toNat
  omega

end Encoding

namespace Glossary

/-- The term that prints a built-in. -/
def printed (f : Builtin) : Term :=
  .call Builtin.str.toName [(Term.name f.toName).toExpr]

/-- A printed built-in has its text for the value. -/
theorem printed_value (f : Builtin) : (printed f).value = .ok (.str f.text) := by
  unfold printed
  rw [Term.call_value, Term.toExpr_value, Term.value, Builtin.toName_builtin, ok_map, ok_bind]
  simp [Builtin.call, Value.text, Value.literal]

/-- The term of an entry picks its letter. -/
theorem entry_value {e : Entry} (h : e ∈ entries) :
    e.term.value = .ok (.str e.letter.toString) := by
  have source : e.term = .pick (printed e.source) (Numeral.expr e.index) := rfl
  rw [source, Term.value, printed_value, ok_bind, Numeral.expr_value, ok_bind,
    pick_of_nat e.source.text (Numeral.value_toInt e.index), letter_at_index e h]

/-- An entry of the glossary is at most three levels deep. -/
theorem entry_depth (e : Entry) : e.term.depth ≤ 3 := by
  unfold Entry.term
  rw [Term.depth, Term.call_depth, Term.toExpr_depth, Term.depth]
  have inside := Numeral.expr_depth e.index
  omega

/-- A term that is looked up belongs to an entry of the letter. -/
theorem exists_entry_of_lookup {c : Char} {t : Term} (h : lookup c = some t) :
    ∃ e ∈ entries, e.letter = c ∧ e.term = t := by
  obtain ⟨e, found, rfl⟩ := Option.map_eq_some_iff.mp h
  have letter := List.find?_some found
  exact ⟨e, List.mem_of_find?_eq_some found, by simpa using letter, rfl⟩

end Glossary

namespace Encoding

/-- What the glossary has for a character gives its text as well. -/
theorem spelled_value (c : Char) : (spelled c).value = .ok (.str c.toString) := by
  unfold spelled
  cases found : Glossary.lookup c with
  | none => exact counted_value c
  | some t =>
    obtain ⟨e, mem, rfl, rfl⟩ := Glossary.exists_entry_of_lookup found
    exact Glossary.entry_value mem

/-- No term from the glossary is deeper than one that counts. -/
theorem spelled_depth (c : Char) : (spelled c).depth ≤ 3 := by
  unfold spelled
  cases found : Glossary.lookup c with
  | none => exact counted_depth c
  | some t =>
    obtain ⟨e, -, -, rfl⟩ := Glossary.exists_entry_of_lookup found
    exact Glossary.entry_depth e

/-- The term for a character evaluates to the text of the character. -/
theorem term_value (mode : Mode) (c : Char) : (term mode c).value = .ok (.str c.toString) := by
  cases mode with
  | basic => exact counted_value c
  | advanced => exact spelled_value c

/-- So is every part of an encoding. -/
theorem term_depth (mode : Mode) (c : Char) : (term mode c).depth ≤ 3 := by
  cases mode with
  | basic => exact counted_depth c
  | advanced => exact spelled_depth c

/-- Each term of a sum adds its character to the text. -/
theorem addAll_value (mode : Mode) (cs : List Char) (s : String) :
    Term.addAll (cs.map (term mode)) (.str s) = .ok (.str (s ++ String.ofList cs)) := by
  induction cs generalizing s with
  | nil => simp [Term.addAll]
  | cons c cs ih =>
    have next : s ++ c.toString ++ String.ofList cs = s ++ String.ofList (c :: cs) := by
      rw [String.ofList_cons, Char.toString_eq_singleton, String.append_assoc]
    rw [List.map_cons, Term.addAll, term_value, ok_bind, Value.add, ok_bind, ih, next]

/-- So are all parts of an encoding. -/
theorem depths_le (mode : Mode) (cs : List Char) : Term.depths (cs.map (term mode)) ≤ 3 := by
  induction cs with
  | nil => exact Nat.zero_le 3
  | cons c cs ih =>
    have first := term_depth mode c
    rw [List.map_cons, Term.depths]
    omega

/-- An expression that is as deep as encodings are has the outcome of its tree. -/
theorem evaluate_shallow {e : Expr} (h : e.depth ≤ 3) : evaluate e.text = e.value :=
  evaluate_written e (Nat.le_trans h (by decide))

/-- The sum of the terms of characters evaluates to their text. -/
theorem sum_value (mode : Mode) (cs : List Char) :
    (sum (cs.map (term mode))).value = .ok (.str (String.ofList cs)) := by
  cases cs with
  | nil =>
    show nothing.value = _
    unfold nothing
    rw [Term.toExpr_value, Term.value, Builtin.toName_builtin]
    rfl
  | cons c cs =>
    have text : c.toString ++ String.ofList cs = String.ofList (c :: cs) :=
      String.ofList_cons.symm
    rw [List.map_cons, sum, Expr.value, term_value, ok_bind, addAll_value, text]

/-- A sum of terms of characters is at most three levels deep. -/
theorem sum_depth (mode : Mode) (cs : List Char) : (sum (cs.map (term mode))).depth ≤ 3 := by
  cases cs with
  | nil => exact Nat.zero_le 3
  | cons c cs =>
    have first := term_depth mode c
    have rest := depths_le mode cs
    rw [List.map_cons, sum, Expr.depth]
    omega

end Encoding

/-- An encoding is never too deep. -/
theorem encodeExpr_depth (mode : Mode) (text : String) : (encodeExpr mode text).depth ≤ 3 := by
  rw [encodeExpr_eq_sum]
  exact Encoding.sum_depth mode (mode.output text).toList

/-- Only a text is a text that a source evaluates to. -/
theorem evaluateText_eq_ok {source s : String} :
    evaluateText source = .ok s ↔ evaluate source = .ok (.str s) := by
  unfold evaluateText
  cases evaluate source with
  | error problem => simp
  | ok v => cases v <;> simp

/-- An encoding evaluates to the text that it stands for. -/
theorem evaluate_encode (mode : Mode) (text : String) :
    evaluate (encode mode text) = .ok (.str (mode.output text)) := by
  have value : (encodeExpr mode text).value = .ok (.str (mode.output text)) := by
    rw [encodeExpr_eq_sum, Encoding.sum_value, String.ofList_toList]
  rw [encode_eq_text, Encoding.evaluate_shallow (encodeExpr_depth mode text), value]

/-- The basic encoding of a text evaluates to the text. -/
theorem evaluateText_encodeBasic (text : String) : evaluateText (encodeBasic text) = .ok text :=
  evaluateText_eq_ok.mpr (evaluate_encode .basic text)

/-- The advanced encoding of a text evaluates to the text in lower case. -/
theorem evaluateText_encodeAdvanced (text : String) :
    evaluateText (encodeAdvanced text) = .ok (Text.lowercase text) :=
  evaluateText_eq_ok.mpr (evaluate_encode .advanced text)

/-- Evaluation undoes encoding: in basic mode it gives back the text, and in advanced mode the text
in lower case. -/
theorem evaluateText_encode (mode : Mode) (text : String) :
    evaluateText (encode mode text) = .ok (mode.output text) := by
  cases mode with
  | basic => exact evaluateText_encodeBasic text
  | advanced => exact evaluateText_encodeAdvanced text

end Lipogram
