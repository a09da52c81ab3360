import Lipogram.Encoding.Tree
import Lipogram.Proofs.Scanning

/-!
# Written forms of numerals and encodings

Numerals and encodings are written from left to right, without any tree. What is written is the text
of the tree that it stands for: of a numeral (`Numeral.render_eq_text`), and of an encoding
(`encode_eq_text`).
-/

set_option autoImplicit false

namespace Lipogram

/-! ## Numerals -/

/-- A term that stands alone is written as the term is. -/
theorem Term.toExpr_text (t : Term) : t.toExpr.text = t.text := by
  simp [Term.toExpr, Expr.text]

namespace Numeral

/-- A numeral is the name of a built-in and the list of empty lists. -/
theorem expr_text (n : Nat) :
    (expr n).text = (if n = 1 then Builtin.bool else Builtin.len).name ++ "([" ++
      ",".intercalate (List.replicate n "[]") ++ "])" := by
  have item : nothing.text = "[]" := by
    rw [nothing, Term.toExpr_text, Term.text]
    rfl
  apply String.toList_injective
  simp [expr, term, tally, Term.toExpr_text, Term.text, text_toName, item]

/-- Pushing lists behind a text writes each of them with a comma in front of it. -/
theorem pushLists_toList (out : String) (n : Nat) :
    (pushLists out n).toList = out.toList ++ (List.replicate n [',', '[', ']']).flatten := by
  have pushed : (",".toList ++ "[]".toList) = [',', '[', ']'] := rfl
  induction n generalizing out with
  | zero => simp [pushLists]
  | succ n ih =>
    rw [pushLists, ih, String.toList_append, String.toList_append, List.append_assoc out.toList,
      pushed, List.replicate_succ, List.flatten_cons, List.append_assoc]

/-- What is written for a number is the text of its numeral. -/
theorem render_eq_text (n : Nat) : render n = (expr n).text := by
  match n with
  | 0 =>
    rw [expr_text]
    rfl
  | 1 =>
    rw [expr_text]
    rfl
  | n + 2 =>
    have several : n + 2 ≠ 1 := by omega
    have items : (",".intercalate (List.replicate (n + 2) "[]")).toList =
        ['[', ']'] ++ (List.replicate (n + 1) [',', '[', ']']).flatten := by
      rw [List.replicate_succ, intercalate_toList, List.flatMap_replicate]
      rfl
    apply String.toList_injective
    rw [render, expr_text, if_neg several]
    simp only [String.toList_append, pushLists_toList, items, List.append_assoc]
    rfl

end Numeral

/-! ## Encodings -/

namespace Encoding

/-- The written form of the expression for the empty text. -/
theorem nothing_text : nothing.text = empty := by
  rw [nothing, Term.toExpr_text, Term.text, text_toName]
  rfl

/-- The term that counts up to a code is written as the part that does. -/
theorem counted_text (c : Char) : (counted c).text = encodeChar c := by
  have name : Builtin.chr.name ++ "(" = "chr(" := by rfl
  rw [encodeChar, Numeral.render_eq_text]
  simp [counted, Term.text, text_toName, name]

/-- The term for a character of an advanced encoding is written as its part. -/
theorem spelled_text (c : Char) : (spelled c).text = encodeLetter c := by
  unfold spelled encodeLetter
  cases Glossary.lookup c with
  | none => exact counted_text c
  | some t => rfl

/-- The written form of a sum of terms. -/
theorem sum_text (ts : List Term) : (sum ts).text = join (ts.map Term.text) := by
  cases ts with
  | nil => exact nothing_text
  | cons t ts => simp [sum, Expr.text, join]

end Encoding

open Encoding

/-- The encoding of a text is the written form of its expression. -/
theorem encode_eq_text (mode : Mode) (text : String) :
    encode mode text = (encodeExpr mode text).text := by
  cases mode with
  | basic =>
    have parts : text.toList.map (Term.text ∘ counted) = basicParts text :=
      List.map_congr_left (fun c _ => counted_text c)
    rw [encodeExpr, sum_text, List.map_map, parts]
    rfl
  | advanced =>
    have parts : (Text.lowercase text).toList.map (Term.text ∘ spelled) = advancedParts text :=
      List.map_congr_left (fun c _ => spelled_text c)
    rw [encodeExpr, sum_text, List.map_map, parts]
    rfl

/-- The terms of an expression that a text is encoded as are those for the characters of the text
that the mode stands for. -/
theorem encodeExpr_eq_sum (mode : Mode) (text : String) :
    encodeExpr mode text = sum ((mode.output text).toList.map (term mode)) := by
  cases mode <;> rfl

end Lipogram
