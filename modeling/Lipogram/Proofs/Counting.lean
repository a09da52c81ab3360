import Lipogram.Proofs.Composites
import Lipogram.Proofs.RoundTrip

/-!
# Numerals in sources

What numerals are good for. A numeral denotes its number (`numeral_denotes`). As a code it stands
for the character that has the code, if there is one (`evaluate_chr_numeral`), and as a subscript
for the character at that place in the printed form of any value (`evaluate_pick_numeral`); so every
character that is printed somewhere can be spelled, which the glossary makes use of.
-/

set_option autoImplicit false

namespace Lipogram

/-! ## Numbers -/

/-- A natural number has a numeral. -/
theorem numeral_nat (n : Nat) : numeral (n : Int) = .ok (Numeral.expr n).text := by
  have natural : ¬(n : Int) < 0 := by omega
  rw [numeral, if_neg natural, Int.toNat_natCast, Numeral.render_eq_text]

/-- A numeral evaluates to the number, or to the truth value that stands for it. -/
theorem evaluate_numeral (n : Nat) :
    evaluate (Numeral.expr n).text = .ok (Numeral.value n) := by
  have shallow : (Numeral.expr n).depth ≤ 3 := Nat.le_succ_of_le (Numeral.expr_depth n)
  rw [Encoding.evaluate_shallow shallow, Numeral.expr_value]

/-- The numeral of an integer evaluates to the integer, or to the truth value that stands for it if
it is one. Negative integers have no numeral. -/
theorem numeral_denotes (n : Int) :
    (numeral n).map evaluate =
      if n < 0 then .error (.negative n)
      else .ok (.ok (if n = 1 then .bool true else .int n)) := by
  by_cases negative : n < 0
  · rw [if_pos negative, numeral, if_pos negative]
    rfl
  · obtain ⟨k, rfl⟩ := Int.eq_ofNat_of_zero_le (Int.not_lt.mp negative)
    rw [if_neg negative, numeral_nat, Except.map, evaluate_numeral, Numeral.value]
    by_cases one : k = 1
    · rw [if_pos one, if_pos (by omega)]
    · rw [if_neg one, if_neg (by omega)]

/-! ## Codes -/

/-- The codes that characters have: those of Unicode but for the surrogates. -/
def IsScalarValue (n : Nat) : Prop :=
  n ≤ 0x10FFFF ∧ ¬(0xD800 ≤ n ∧ n ≤ 0xDFFF)

instance : DecidablePred IsScalarValue :=
  fun n => inferInstanceAs (Decidable (n ≤ 0x10FFFF ∧ ¬(0xD800 ≤ n ∧ n ≤ 0xDFFF)))

/-- Scalar values are the codes that characters have. -/
theorem scalar_iff_valid (n : Nat) : IsScalarValue n ↔ n.isValidChar := by
  unfold IsScalarValue Nat.isValidChar
  omega

/-- A scalar value is the code of a character. -/
theorem char_of_scalar {n : Nat} (h : IsScalarValue n) :
    ∃ c : Char, c.toNat = n ∧ charOfCode? n = some c := by
  have code : (Char.ofNatAux n ((scalar_iff_valid n).mp h)).toNat = n := rfl
  refine ⟨_, code, ?_⟩
  have found := charOfCode_toNat (Char.ofNatAux n ((scalar_iff_valid n).mp h))
  rwa [code] at found

/-- No character has a code that is no scalar value. -/
theorem char_of_no_scalar {n : Nat} (h : ¬IsScalarValue n) : charOfCode? n = none := by
  have invalid : ¬(0 ≤ (n : Int) ∧ (n : Int).toNat.isValidChar) := by
    rw [Int.toNat_natCast, ← scalar_iff_valid]
    exact fun valid => h valid.2
  rw [charOfCode?, dif_neg invalid]

/-- A numeral in a call is as good as its number. -/
theorem evaluate_call_numeral (f : Builtin) (n : Nat) :
    evaluate (f.name ++ "(" ++ (Numeral.expr n).text ++ ")") = f.call [Numeral.value n] := by
  have inside := (Lexeme.ofSource_text (Numeral.expr n)).symm
  have shallow : (Term.call f.toName [Numeral.expr n]).toExpr.depth ≤ Reader.deepestLevel := by
    have depth := Numeral.expr_depth n
    rw [Term.toExpr_depth, Term.call_depth, Reader.deepestLevel]
    omega
  rw [evaluate_of_lexemes (Term.reading_call f inside) shallow, Term.toExpr_value,
    Term.call_value, Numeral.expr_value, ok_bind]

/-- The numerals of the scalar values of Unicode, and no others, are codes of characters. -/
theorem evaluate_chr_numeral (n : Nat) :
    ∃ s, numeral n = .ok s ∧
      if IsScalarValue n then
        ∃ c : Char, c.toNat = n ∧ evaluate ("chr(" ++ s ++ ")") = .ok (.str c.toString)
      else evaluate ("chr(" ++ s ++ ")") = .error (.noCharacter n) := by
  refine ⟨(Numeral.expr n).text, numeral_nat n, ?_⟩
  have outcome : evaluate ("chr(" ++ (Numeral.expr n).text ++ ")") =
      (Numeral.value n).character := evaluate_call_numeral .chr n
  rw [outcome]
  by_cases scalar : IsScalarValue n
  · rw [if_pos scalar]
    obtain ⟨c, rfl, -⟩ := char_of_scalar scalar
    exact ⟨c, rfl, character_of_toInt (Numeral.value_toInt c.toNat)⟩
  · rw [if_neg scalar, Value.character, Numeral.value_toInt]
    simp only [char_of_no_scalar scalar]

/-! ## Places -/

/-- A numeral picks its character from the printed form of the value of any source, if the source
may stand one level down; behind the last character it is out of range. -/
theorem evaluate_pick_numeral {x : String} {v printed : Value} (value : evaluate x = .ok v)
    (inside : evaluate ("str(" ++ x ++ ")") = .ok printed) (n : Nat) :
    ∃ s, numeral n = .ok s ∧
      evaluate ("str(" ++ x ++ ")[" ++ s ++ "]") =
        match v.text.toList[n]? with
        | some c => .ok (.str c.toString)
        | none => .error (.outOfRange n v.text.length) := by
  refine ⟨(Numeral.expr n).text, numeral_nat n, ?_⟩
  obtain ⟨e, read, -, of_tree⟩ := exists_reading value
  have read_call : (Term.call Builtin.str.toName [e]).toExpr.lexemes =
      Lexeme.ofSource ("str(" ++ x ++ ")") := Term.reading_call .str read
  have read_pick := Term.reading_pick read_call (Lexeme.ofSource_text (Numeral.expr n)).symm
  have whole : "str(" ++ x ++ ")" ++ "[" ++ (Numeral.expr n).text ++ "]" =
      "str(" ++ x ++ ")[" ++ (Numeral.expr n).text ++ "]" := by
    apply String.toList_injective
    simp
  rw [whole] at read_pick
  -- the call may stand where it does because it has a value, and numerals are never deep
  have shallow : (Term.pick (.call Builtin.str.toName [e]) (Numeral.expr n)).toExpr.depth ≤
      Reader.deepestLevel := by
    have call := (reading_of_value inside read_call).1
    have index := Numeral.expr_depth n
    rw [Term.toExpr_depth] at call
    rw [Term.toExpr_depth, Term.depth]
    unfold Reader.deepestLevel at call ⊢
    omega
  have base : (Term.call Builtin.str.toName [e]).value = .ok (.str v.text) := by
    rw [Term.call_value, of_tree, ok_bind, Builtin.call]
  rw [evaluate_of_lexemes read_pick shallow, Term.toExpr_value, Term.value, base, ok_bind,
    Numeral.expr_value, ok_bind]
  exact pick_of_nat v.text (Numeral.value_toInt n)

/-- The second item of a printed list, and a place behind its end. -/
theorem evaluate_pick_numeral_list :
    evaluate " [bool, len([])] " = .ok (.list [.builtin .bool, .int 0]) ∧
      evaluate "str( [bool, len([])] )" = .ok (.str "[<class 'bool'>, 0]") ∧
      (∃ s, numeral 17 = .ok s ∧
        evaluate ("str( [bool, len([])] )[" ++ s ++ "]") = .ok (.str "0")) ∧
      ∃ s, numeral 19 = .ok s ∧
        evaluate ("str( [bool, len([])] )[" ++ s ++ "]") = .error (.outOfRange 19 19) := by
  have value : evaluate " [bool, len([])] " = .ok (.list [.builtin .bool, .int 0]) := by rfl
  have text : (Value.list [.builtin .bool, .int 0]).text = "[<class 'bool'>, 0]" := by cbv
  have inside : evaluate "str( [bool, len([])] )" = .ok (.str "[<class 'bool'>, 0]") := by
    rw [← text]
    rfl
  have second := evaluate_pick_numeral value inside 17
  have behind := evaluate_pick_numeral value inside 19
  rw [text] at second behind
  exact ⟨value, inside, second, behind⟩

end Lipogram
