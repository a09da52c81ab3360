import Lipogram.Proofs.Parts
import Mathlib.Algebra.GroupWithZero.Nat
import Mathlib.Algebra.Order.BigOperators.Group.List
import Mathlib.Algebra.Order.Group.Nat

/-!
# Lengths of encodings

How many bytes encodings take. A numeral takes three bytes for each of the lists that it counts
(`Numeral.expr_size`), and every letter of the glossary is written shorter than by counting up to
its code (`entry_shorter`). So the advanced encoding is never longer than the basic encoding of the
same text in lower case, and just as long only where it takes no letter from the glossary
(`encode_advanced_shorter`).
-/

set_option autoImplicit false

namespace Lipogram

/-- The bytes of joined texts are those of the texts and of a separator behind each of them but the
last. -/
theorem size_intercalate (separator first : String) (rest : List String) :
    (separator.intercalate (first :: rest)).utf8ByteSize + separator.utf8ByteSize =
      ((first :: rest).map (fun s => s.utf8ByteSize + separator.utf8ByteSize)).sum := by
  induction rest generalizing first with
  | nil => simp
  | cons next rest ih =>
    have behind := ih next
    rw [String.intercalate_cons_cons, String.utf8ByteSize_append, String.utf8ByteSize_append,
      List.map_cons, List.sum_cons]
    omega

/-! ## Numerals -/

namespace Numeral

/-- The bytes of the numeral of a number. -/
def size (n : Nat) : Nat :=
  if n = 0 then 7 else if n = 1 then 10 else 3 * n + 6

/-- The lists that a numeral counts take three bytes each, with a comma behind all but the last. -/
theorem items_size {n : Nat} (positive : n ≠ 0) :
    (",".intercalate (List.replicate n "[]")).utf8ByteSize + 1 = 3 * n := by
  obtain ⟨m, rfl⟩ := Nat.exists_eq_succ_of_ne_zero positive
  have item : "[]".utf8ByteSize = 2 := by rfl
  have comma : ",".utf8ByteSize = 1 := by rfl
  have joined := size_intercalate "," "[]" (List.replicate m "[]")
  rw [← List.replicate_succ, List.map_replicate, List.sum_replicate, item, comma] at joined
  rw [joined, Nat.nsmul_eq_mul, Nat.mul_comm]

/-- A numeral takes the number of bytes that its size tells. -/
theorem expr_size (n : Nat) : (expr n).text.utf8ByteSize = size n := by
  have opening : "([".utf8ByteSize = 2 := by rfl
  have closing : "])".utf8ByteSize = 2 := by rfl
  rw [expr_text]
  simp only [String.utf8ByteSize_append, opening, closing]
  unfold size
  by_cases zero : n = 0
  · subst zero
    rfl
  · have items := items_size zero
    rw [if_neg zero]
    by_cases one : n = 1
    · have name : Builtin.bool.name.utf8ByteSize = 4 := by rfl
      rw [if_pos one, if_pos one, name]
      omega
    · have name : Builtin.len.name.utf8ByteSize = 3 := by rfl
      rw [if_neg one, if_neg one, name]
      omega

end Numeral

namespace Encoding

/-! ## Terms -/

/-- A counted character takes five bytes more than the numeral of its code. -/
theorem counted_size (c : Char) :
    (counted c).text.utf8ByteSize = Numeral.size c.toNat + 5 := by
  have opening : "chr(".utf8ByteSize = 4 := by rfl
  have closing : ")".utf8ByteSize = 1 := by rfl
  rw [counted_text, encodeChar, String.utf8ByteSize_append, String.utf8ByteSize_append,
    Numeral.render_eq_text, Numeral.expr_size, opening, closing]
  omega

/-- An entry of the glossary takes the bytes of its name and its numeral, and seven more. -/
theorem entry_size (e : Glossary.Entry) :
    e.term.text.utf8ByteSize = e.source.name.utf8ByteSize + Numeral.size e.index + 7 := by
  have opening : "str(".utf8ByteSize = 4 := by rfl
  have bracket : ")[".utf8ByteSize = 2 := by rfl
  have closing : "]".utf8ByteSize = 1 := by rfl
  rw [entry_text]
  simp only [String.utf8ByteSize_append, Numeral.expr_size, opening, bracket, closing]
  omega

/-- The glossary writes each of its letters shorter than by counting up to the code. -/
theorem entry_shorter {e : Glossary.Entry} (mem : e ∈ Glossary.entries) :
    e.term.text.utf8ByteSize < (counted e.letter).text.utf8ByteSize := by
  have shorter : ∀ e ∈ Glossary.entries,
      e.source.name.utf8ByteSize + Numeral.size e.index + 7 < Numeral.size e.letter.toNat + 5 := by
    decide
  rw [entry_size, counted_size]
  exact shorter e mem

/-- The advanced term for a character is shorter than the basic one if the glossary has the
character, and no longer in any case. -/
theorem term_size (c : Char) :
    (term .advanced c).text.utf8ByteSize ≤ (term .basic c).text.utf8ByteSize ∧
      ((term .advanced c).text.utf8ByteSize < (term .basic c).text.utf8ByteSize ↔
        (Glossary.lookup c).isSome) := by
  show (spelled c).text.utf8ByteSize ≤ (counted c).text.utf8ByteSize ∧
    ((spelled c).text.utf8ByteSize < (counted c).text.utf8ByteSize ↔ (Glossary.lookup c).isSome)
  unfold spelled
  cases found : Glossary.lookup c with
  | none => simp
  | some t =>
    obtain ⟨e, mem, rfl, rfl⟩ := Glossary.exists_entry_of_lookup found
    have shorter := entry_shorter mem
    simp only [Option.getD_some, Option.isSome_some, iff_true]
    exact ⟨shorter.le, shorter⟩

/-! ## Encodings -/

/-- The bytes of the terms for some characters, with one more for each of them. -/
def termsSize (mode : Mode) (cs : List Char) : Nat :=
  (cs.map (fun c => (term mode c).text.utf8ByteSize + 1)).sum

/-- Joined parts take the bytes of each part and of a plus sign behind each of them but the last. -/
theorem parts_size (mode : Mode) {cs : List Char} (nonempty : cs ≠ []) :
    ("+".intercalate (partsOf mode cs)).utf8ByteSize + 1 = termsSize mode cs := by
  obtain ⟨c, cs, rfl⟩ := List.exists_cons_of_ne_nil nonempty
  have joined := size_intercalate "+" (term mode c).text (partsOf mode cs)
  rw [partsOf, ← List.map_cons (f := fun c => (term mode c).text), List.map_map] at joined
  exact joined

/-- What holds of the term for each character holds of all of them together. -/
theorem termsSize_advanced (cs : List Char) :
    termsSize .advanced cs ≤ termsSize .basic cs ∧
      (termsSize .advanced cs < termsSize .basic cs ↔
        ∃ c ∈ cs, (Glossary.lookup c).isSome) := by
  induction cs with
  | nil => simp [termsSize]
  | cons c cs ih =>
    obtain ⟨le, shorter⟩ := term_size c
    obtain ⟨les, shorters⟩ := ih
    unfold termsSize at les shorters ⊢
    rw [List.exists_mem_cons_iff, ← shorter, ← shorters]
    simp only [List.map_cons, List.sum_cons]
    omega

end Encoding

open Encoding

/-- The glossary only ever shortens: the advanced encoding of a text is no longer than the basic
encoding of the text in lower case, and shorter exactly if the glossary has a letter of it. -/
theorem encode_advanced_shorter (text : String) :
    (encode .advanced text).utf8ByteSize ≤ (encode .basic (Text.lowercase text)).utf8ByteSize ∧
      ((encode .advanced text).utf8ByteSize < (encode .basic (Text.lowercase text)).utf8ByteSize ↔
        ∃ c ∈ (Text.lowercase text).toList, (Glossary.lookup c).isSome) := by
  by_cases empty : text = ""
  · have lowered : Text.lowercase "" = "" := rfl
    have same : encode .advanced "" = encode .basic "" := rfl
    rw [empty, lowered, same]
    simp
  · have letters : (Text.lowercase text).toList ≠ [] := Mode.output_ne_nil empty .advanced
    have lowered : Text.lowercase text ≠ "" := by
      intro none
      exact letters (String.toList_eq_nil_iff.mpr none)
    have advanced : (encode .advanced text).utf8ByteSize + 1 =
        termsSize .advanced (Text.lowercase text).toList := by
      rw [encode_eq_parts empty]
      exact parts_size .advanced letters
    have basic : (encode .basic (Text.lowercase text)).utf8ByteSize + 1 =
        termsSize .basic (Text.lowercase text).toList := by
      rw [encode_eq_parts lowered]
      exact parts_size .basic letters
    obtain ⟨le, shorter⟩ := termsSize_advanced (Text.lowercase text).toList
    rw [← shorter]
    omega

end Lipogram
