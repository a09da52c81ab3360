import Lipogram.Proofs.RoundTrip

/-!
# Parts of encodings

An encoding is its parts joined by plus signs, one part for each character that it stands for. No
part has a plus sign in it, so the parts are found again at the plus signs (`parts_encode`), and any
of them joined again evaluate to the text of their characters (`evaluate_partsOf`).
-/

set_option autoImplicit false

namespace Lipogram

/-! ## Texts that encodings stand for -/

/-- Lowering leaves no character out. -/
theorem Text.length_lowerFrom (done before cs : List Char) :
    done.length + cs.length ≤ (lowerFrom done before cs).length := by
  induction cs generalizing done before with
  | nil => simp [lowerFrom]
  | cons c cs ih =>
    have lowered : 0 < (lowerChar c).length := by
      unfold lowerChar
      split
      · simp
      · split <;> simp
    rw [lowerFrom]
    split
    · have rest := ih (lowerSigma before cs :: done) (c :: before)
      simp only [List.length_cons] at rest ⊢
      omega
    · have rest := ih ((lowerChar c).reverse ++ done) (c :: before)
      simp only [List.length_cons, List.length_append, List.length_reverse] at rest ⊢
      omega

/-- An encoding of a text that is not empty stands for a text that is not empty. -/
theorem Mode.output_ne_nil {text : String} (nonempty : text ≠ "") (mode : Mode) :
    (mode.output text).toList ≠ [] := by
  have letters : text.toList ≠ [] := by
    intro none
    exact nonempty (String.toList_eq_nil_iff.mp none)
  cases mode with
  | basic => exact letters
  | advanced =>
    have long := Text.length_lowerFrom [] [] text.toList
    have some_letter := List.length_pos_iff.mpr letters
    unfold output Text.lowercase
    rw [String.toList_ofList]
    apply List.ne_nil_of_length_pos
    simp only [List.length_nil, Nat.zero_add] at long
    exact Nat.lt_of_lt_of_le some_letter long

/-! ## Written terms -/

namespace Encoding

/-- The term of an entry prints a built-in and picks with a numeral. -/
theorem entry_text (e : Glossary.Entry) :
    e.term.text = "str(" ++ e.source.name ++ ")[" ++ (Numeral.expr e.index).text ++ "]" := by
  apply String.toList_injective
  simp [Glossary.Entry.term, Term.text, Term.toExpr_text, text_toName, Builtin.name]

end Encoding

/-! ## Plus signs -/

/-- A name has no plus sign in it. -/
theorem Name.no_plus (n : Name) : '+' ∉ n.text.toList := by
  intro mem
  exact absurd (n.continues_of_mem mem) (by decide)

/-- A numeral holds no plus sign. -/
theorem Numeral.no_plus (n : Nat) : '+' ∉ (expr n).text.toList := by
  have items : '+' ∉ (",".intercalate (List.replicate n "[]")).toList := by
    cases n with
    | zero => simp
    | succ n =>
      rw [List.replicate_succ, intercalate_toList]
      simp
  have name := (if n = 1 then Builtin.bool else Builtin.len).toName.no_plus
  rw [text_toName] at name
  rw [expr_text]
  simp only [String.toList_append, List.mem_append, not_or]
  exact ⟨⟨⟨name, by decide⟩, items⟩, by decide⟩

namespace Encoding

/-- A counted character holds no plus sign. -/
theorem counted_no_plus (c : Char) : '+' ∉ (counted c).text.toList := by
  rw [counted_text, encodeChar, Numeral.render_eq_text]
  simp [Numeral.no_plus]

/-- An entry of the glossary holds no plus sign. -/
theorem entry_no_plus (e : Glossary.Entry) : '+' ∉ e.term.text.toList := by
  have name := e.source.toName.no_plus
  rw [text_toName] at name
  rw [entry_text]
  simp [name, Numeral.no_plus]

/-- No part of an encoding holds a plus sign. -/
theorem term_no_plus (mode : Mode) (c : Char) : '+' ∉ (term mode c).text.toList := by
  cases mode with
  | basic => exact counted_no_plus c
  | advanced =>
    show '+' ∉ (spelled c).text.toList
    unfold spelled
    cases found : Glossary.lookup c with
    | none => exact counted_no_plus c
    | some t =>
      obtain ⟨e, -, -, rfl⟩ := Glossary.exists_entry_of_lookup found
      exact entry_no_plus e

/-! ## Parts -/

/-- The parts of a source between its plus signs. -/
def parts (source : String) : List String :=
  (source.split '+').toList.map (·.copy)

/-- The parts that encode some characters. -/
def partsOf (mode : Mode) (cs : List Char) : List String :=
  cs.map (fun c => (term mode c).text)

/-- The written form of a sum with terms. -/
theorem sum_text_of_ne_nil {ts : List Term} (nonempty : ts ≠ []) :
    (sum ts).text = "+".intercalate (ts.map Term.text) := by
  have some_part : (ts.map Term.text).isEmpty = false := by simpa using nonempty
  rw [sum_text, join, some_part]
  rfl

/-- The parts of some characters, joined by plus signs, evaluate to the text of the characters. -/
theorem evaluate_partsOf (mode : Mode) {cs : List Char} (nonempty : cs ≠ []) :
    evaluate ("+".intercalate (partsOf mode cs)) = .ok (.str (String.ofList cs)) := by
  have terms : cs.map (term mode) ≠ [] := by simpa using nonempty
  have written : "+".intercalate (partsOf mode cs) = (sum (cs.map (term mode))).text := by
    rw [sum_text_of_ne_nil terms, List.map_map]
    rfl
  rw [written, evaluate_shallow (sum_depth mode cs), sum_value]

variable {mode : Mode} {text : String}

/-- The encoding of a text that is not empty is its parts with plus signs between them. -/
theorem encode_eq_parts (nonempty : text ≠ "") :
    encode mode text = "+".intercalate (partsOf mode (mode.output text).toList) := by
  have terms : (mode.output text).toList.map (term mode) ≠ [] := by
    simpa using mode.output_ne_nil nonempty
  rw [encode_eq_text, encodeExpr_eq_sum, sum_text_of_ne_nil terms, List.map_map]
  rfl

/-- The parts of an encoding are those of the characters that it stands for. -/
theorem parts_encode (nonempty : text ≠ "") :
    parts (encode mode text) = partsOf mode (mode.output text).toList := by
  have no_plus : ∀ s ∈ partsOf mode (mode.output text).toList, '+' ∉ s.toList := by
    intro s mem
    obtain ⟨c, -, rfl⟩ := List.mem_map.mp mem
    exact term_no_plus mode c
  have some_part : partsOf mode (mode.output text).toList ≠ [] := by
    simpa [partsOf] using mode.output_ne_nil nonempty
  rw [encode_eq_parts nonempty, parts]
  exact (String.toList_split_intercalate no_plus).trans (if_neg some_part)

/-- The part for a character: what the glossary has for it in advanced mode, or else the call of
`chr` with the numeral of its code. -/
theorem term_text (mode : Mode) (c : Char) :
    (term mode c).text =
      match mode, Glossary.lookup c with
      | .advanced, some t => t.text
      | _, _ => "chr(" ++ (Numeral.expr c.toNat).text ++ ")" := by
  rw [← Numeral.render_eq_text, ← encodeChar, ← counted_text]
  cases mode with
  | basic => rfl
  | advanced =>
    show (spelled c).text = _
    unfold spelled
    cases Glossary.lookup c <;> rfl

end Encoding

open Encoding

/-- An encoding splits at its plus signs into one part for each character that it stands for, and
any run of parts that follow each other, joined again, evaluates to the text of their characters. -/
theorem encode_splits {text : String} (nonempty : text ≠ "") (mode : Mode) :
    (parts (encode mode text)).length = (mode.output text).length ∧
    (∀ (i : Nat) (c : Char), (mode.output text).toList[i]? = some c →
      (parts (encode mode text))[i]? = some
        (match mode, Glossary.lookup c with
        | .advanced, some t => t.text
        | _, _ => "chr(" ++ (Numeral.expr c.toNat).text ++ ")")) ∧
    ∀ i j, i < j → j ≤ (mode.output text).length →
      evaluateText ("+".intercalate (((parts (encode mode text)).take j).drop i)) =
        .ok (String.ofList (((mode.output text).toList.take j).drop i)) := by
  rw [parts_encode nonempty, ← String.length_toList]
  refine ⟨List.length_map _, ?_, ?_⟩
  · intro i c found
    rw [← term_text, partsOf, List.getElem?_map, found, Option.map_some]
  · intro i j later inside
    have some_letter : ((mode.output text).toList.take j).drop i ≠ [] := by
      apply List.ne_nil_of_length_pos
      rw [List.length_drop, List.length_take]
      omega
    have run : ((partsOf mode (mode.output text).toList).take j).drop i =
        partsOf mode (((mode.output text).toList.take j).drop i) := by
      rw [partsOf, partsOf, List.map_drop, List.map_take]
    rw [run, evaluateText_eq_ok]
    exact evaluate_partsOf mode some_letter

/-- A letter that the glossary has, behind a sign that it has not. -/
theorem encode_splits_letters :
    (parts (encode .advanced "A!b")).length = 3 ∧
      (parts (encode .advanced "A!b"))[1]? = some ("chr(" ++ (Numeral.expr 33).text ++ ")") ∧
      (parts (encode .advanced "A!b"))[2]? = some "str(len)[bool([[]])]" ∧
      evaluateText ("+".intercalate (((parts (encode .advanced "A!b")).take 3).drop 1)) =
        .ok "!b" := by
  have output : Mode.advanced.output "A!b" = "a!b" := by rfl
  have entry : (Glossary.Entry.term ⟨'b', .len, 1⟩).text = "str(len)[bool([[]])]" := by
    rw [entry_text, Numeral.expr_text]
    rfl
  have nonempty : "A!b" ≠ "" := by decide
  obtain ⟨number, part, joined⟩ := encode_splits nonempty .advanced
  rw [output] at number part joined
  rw [← entry]
  exact ⟨number, part 1 '!' (by rfl), part 2 'b' (by rfl), joined 1 3 (by decide) (by decide)⟩

end Lipogram
