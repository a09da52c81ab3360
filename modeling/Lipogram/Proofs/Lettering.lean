import Lipogram.Proofs.Alphabet
import Lipogram.Proofs.Parts

/-!
# The alphabets of encodings

Which characters encodings are written with (`alphabet_encode`). In a basic encoding there are those
of `chr` and of brackets in any case, and the others tell what codes are counted up to: the code 1,
another one, or one above 1; and whether there is more than one character. The advanced encoding
adds no more than the letters of built-ins that it prints.
-/

set_option autoImplicit false

namespace Lipogram

namespace Encoding

/-! ## Alphabets -/

/-- Collecting the characters of a text keeps each of them once. -/
theorem collect_characters (cs seen : List Char) :
    let collected := cs.foldl (fun seen c => if seen.contains c then seen else c :: seen) seen
    (∀ c, c ∈ collected ↔ c ∈ seen ∨ c ∈ cs) ∧ (seen.Nodup → collected.Nodup) := by
  induction cs generalizing seen with
  | nil => simp
  | cons d cs ih =>
    rw [List.foldl_cons]
    by_cases known : d ∈ seen
    · obtain ⟨members, once⟩ := ih seen
      rw [if_pos (List.contains_iff_mem.mpr known)]
      refine ⟨fun c => ?_, once⟩
      rw [members, List.mem_cons]
      constructor
      · exact Or.imp_right Or.inr
      · rintro (before | rfl | behind)
        · exact .inl before
        · exact .inl known
        · exact .inr behind
    · obtain ⟨members, once⟩ := ih (d :: seen)
      rw [if_neg (by simpa using known)]
      refine ⟨fun c => ?_, fun nodup => once (List.nodup_cons.mpr ⟨known, nodup⟩)⟩
      rw [members, List.mem_cons, List.mem_cons, or_assoc, or_left_comm]

/-- The alphabet of a text holds the characters of the text. -/
theorem mem_alphabet {c : Char} {text : String} : c ∈ alphabet text ↔ c ∈ text.toList := by
  obtain ⟨members, -⟩ := collect_characters text.toList []
  rw [alphabet, List.mem_mergeSort, members]
  simp

/-- The alphabet of a text holds each character once, in the order of the codes. -/
theorem alphabet_ascends (text : String) :
    (alphabet text).Pairwise (fun c d => c.toNat < d.toNat) := by
  obtain ⟨-, once⟩ := collect_characters text.toList []
  have distinct : (alphabet text).Nodup :=
    (List.mergeSort_perm _ _).nodup_iff.mpr (once List.nodup_nil)
  have sorted : (alphabet text).Pairwise (fun c d => decide (c.toNat ≤ d.toNat) = true) := by
    apply List.pairwise_mergeSort
    · intro a b c first second
      simp only [decide_eq_true_eq] at first second ⊢
      omega
    · intro a b
      simp only [Bool.or_eq_true, decide_eq_true_eq]
      omega
  refine (sorted.and distinct).imp (fun {c d} h => ?_)
  obtain ⟨le, ne⟩ := h
  have codes : c.toNat ≠ d.toNat := fun same => ne (Char.toNat_inj.mp same)
  have ordered : c.toNat ≤ d.toNat := by simpa using le
  omega

/-! ## Characters of terms -/

/-- The characters of joined texts are theirs and, if there are two texts, those between them. -/
theorem mem_intercalate {c : Char} {separator : String} {texts : List String} :
    c ∈ (separator.intercalate texts).toList ↔
      (∃ s ∈ texts, c ∈ s.toList) ∨ c ∈ separator.toList ∧ 2 ≤ texts.length := by
  cases texts with
  | nil => simp
  | cons first rest =>
    rw [intercalate_toList]
    simp only [List.mem_append, List.mem_flatMap, List.mem_cons, exists_eq_or_imp,
      List.length_cons]
    constructor
    · rintro (own | ⟨s, mem, between | own⟩)
      · exact .inl (.inl own)
      · have some_text := List.length_pos_of_mem mem
        exact .inr ⟨between, by omega⟩
      · exact .inl (.inr ⟨s, mem, own⟩)
    · rintro ((own | ⟨s, mem, own⟩) | ⟨between, two⟩)
      · exact .inl own
      · exact .inr ⟨s, mem, .inr own⟩
      · cases rest with
        | nil => simp at two
        | cons s rest => exact .inr ⟨s, List.mem_cons_self, .inl between⟩

/-- The characters that a numeral is written with. -/
theorem mem_numeral {c : Char} {n : Nat} :
    c ∈ (Numeral.expr n).text.toList ↔
      c ∈ ['l', '(', '[', ']', ')'] ∨ c ∈ ['e', 'n'] ∧ n ≠ 1 ∨ c ∈ ['b', 'o'] ∧ n = 1 ∨
        c = ',' ∧ 2 ≤ n := by
  have opening : "([".toList = ['(', '['] := rfl
  have closing : "])".toList = [']', ')'] := rfl
  have items : c ∈ (",".intercalate (List.replicate n "[]")).toList ↔
      c ∈ ['[', ']'] ∧ n ≠ 0 ∨ c = ',' ∧ 2 ≤ n := by
    rw [mem_intercalate, List.length_replicate]
    simp only [List.mem_replicate]
    constructor
    · rintro (⟨s, ⟨some_item, rfl⟩, own⟩ | ⟨between, two⟩)
      · exact .inl ⟨own, some_item⟩
      · exact .inr ⟨List.mem_singleton.mp between, two⟩
    · rintro (⟨own, some_item⟩ | ⟨rfl, two⟩)
      · exact .inl ⟨"[]", ⟨some_item, rfl⟩, own⟩
      · exact .inr ⟨List.mem_singleton_self ',', two⟩
  rw [Numeral.expr_text]
  simp only [String.toList_append, List.mem_append, items, opening, closing]
  by_cases one : n = 1
  · have name : Builtin.bool.name.toList = ['b', 'o', 'o', 'l'] := rfl
    rw [if_pos one, name]
    grind
  · have name : Builtin.len.name.toList = ['l', 'e', 'n'] := rfl
    rw [if_neg one, name]
    grind

/-- The characters that the call for a code is written with. -/
theorem mem_counted {c d : Char} :
    c ∈ (counted d).text.toList ↔
      c ∈ ['c', 'h', 'r', 'l', '(', ')', '[', ']'] ∨ c ∈ ['e', 'n'] ∧ d.toNat ≠ 1 ∨
        c ∈ ['b', 'o'] ∧ d.toNat = 1 ∨ c = ',' ∧ 2 ≤ d.toNat := by
  have name : "chr(".toList = ['c', 'h', 'r', '('] := rfl
  have closing : ")".toList = [')'] := rfl
  rw [counted_text, encodeChar, Numeral.render_eq_text]
  simp only [String.toList_append, List.mem_append, mem_numeral, name, closing]
  grind

/-! ## Characters of encodings -/

/-- The characters of a basic encoding, which is never without the names of `chr` and brackets. -/
theorem mem_basic {text : String} (nonempty : text ≠ "") {c : Char} :
    c ∈ (encode .basic text).toList ↔
      c ∈ ['c', 'h', 'r', 'l', '(', ')', '[', ']'] ∨
      c ∈ ['e', 'n'] ∧ (∃ d ∈ text.toList, d.toNat ≠ 1) ∨
      c ∈ ['b', 'o'] ∧ (∃ d ∈ text.toList, d.toNat = 1) ∨
      c = ',' ∧ (∃ d ∈ text.toList, 2 ≤ d.toNat) ∨
      c = '+' ∧ 2 ≤ text.length := by
  have part : (∃ s ∈ partsOf .basic text.toList, c ∈ s.toList) ↔
      ∃ d ∈ text.toList, c ∈ (counted d).text.toList := by
    simp only [partsOf, List.mem_map]
    constructor
    · rintro ⟨s, ⟨d, mem, rfl⟩, own⟩
      exact ⟨d, mem, own⟩
    · rintro ⟨d, mem, own⟩
      exact ⟨_, ⟨d, mem, rfl⟩, own⟩
  have written : encode .basic text = "+".intercalate (partsOf .basic text.toList) :=
    encode_eq_parts nonempty
  have plus : "+".toList = ['+'] := rfl
  obtain ⟨first, letter⟩ := List.exists_mem_of_ne_nil text.toList (by simpa using nonempty)
  rw [written, mem_intercalate, part, plus, List.mem_singleton, partsOf, List.length_map,
    String.length_toList]
  simp only [mem_counted]
  constructor
  · rintro (⟨d, mem, always | ⟨own, other⟩ | ⟨own, one⟩ | ⟨own, two⟩⟩ | ⟨own, two⟩)
    · exact .inl always
    · exact .inr (.inl ⟨own, d, mem, other⟩)
    · exact .inr (.inr (.inl ⟨own, d, mem, one⟩))
    · exact .inr (.inr (.inr (.inl ⟨own, d, mem, two⟩)))
    · exact .inr (.inr (.inr (.inr ⟨own, two⟩)))
  · rintro (always | ⟨own, d, mem, other⟩ | ⟨own, d, mem, one⟩ | ⟨own, d, mem, two⟩ | ⟨own, two⟩)
    · exact .inl ⟨first, letter, .inl always⟩
    · exact .inl ⟨d, mem, .inr (.inl ⟨own, other⟩)⟩
    · exact .inl ⟨d, mem, .inr (.inr (.inl ⟨own, one⟩))⟩
    · exact .inl ⟨d, mem, .inr (.inr (.inr ⟨own, two⟩))⟩
    · exact .inr ⟨own, two⟩

/-- The characters of advanced encodings: those of basic ones, and the letters that only names of
other built-ins have. -/
def advancedAlphabet : List Char :=
  basicAlphabet.toList ++ ['s', 't', 'y', 'p', 'a']

/-- A text that is written with the characters of advanced encodings. -/
def IsAdvanced (text : String) : Prop :=
  ∀ c ∈ text.toList, c ∈ advancedAlphabet

/-- A text is of the advanced alphabet if all its characters are. -/
theorem IsAdvanced.of_all {text : String}
    (h : text.toList.all (advancedAlphabet.contains ·) = true) : IsAdvanced text := by
  intro c mem
  have inside := List.all_eq_true.mp h c mem
  simpa using inside

/-- Texts of the advanced alphabet stay so behind each other. -/
theorem IsAdvanced.append {s t : String} (left : IsAdvanced s) (right : IsAdvanced t) :
    IsAdvanced (s ++ t) := by
  intro c mem
  rw [String.toList_append] at mem
  rcases List.mem_append.mp mem with mem | mem
  · exact left c mem
  · exact right c mem

/-- Texts of the advanced alphabet stay so with one of them between the others. -/
theorem IsAdvanced.intercalate {separator : String} {texts : List String}
    (between : IsAdvanced separator) (all : ∀ s ∈ texts, IsAdvanced s) :
    IsAdvanced (separator.intercalate texts) := by
  intro c mem
  rcases mem_intercalate.mp mem with ⟨s, mem, own⟩ | ⟨own, -⟩
  · exact all s mem c own
  · exact between c own

/-- The names of built-ins are of the advanced alphabet. -/
theorem name_isAdvanced (f : Builtin) : IsAdvanced f.name := by
  cases f <;> exact .of_all rfl

/-- So are numerals. -/
theorem numeral_isAdvanced (n : Nat) : IsAdvanced (Numeral.expr n).text := by
  intro c mem
  rw [← Expr.spelling_lexemes] at mem
  exact List.mem_append_left _ (basic_numeral n c mem)

/-- So are counted characters. -/
theorem counted_isAdvanced (d : Char) : IsAdvanced (counted d).text := by
  intro c mem
  rw [← Term.spelling_lexemes] at mem
  exact List.mem_append_left _ (basic_counted d c mem)

/-- So are the entries of the glossary. -/
theorem entry_isAdvanced (e : Glossary.Entry) : IsAdvanced e.term.text := by
  have opening : IsAdvanced "str(" := .of_all rfl
  have bracket : IsAdvanced ")[" := .of_all rfl
  have closing : IsAdvanced "]" := .of_all rfl
  rw [entry_text]
  exact (((opening.append (name_isAdvanced e.source)).append bracket).append
    (numeral_isAdvanced e.index)).append closing

/-- So is every part of an encoding. -/
theorem term_isAdvanced (d : Char) : IsAdvanced (term .advanced d).text := by
  show IsAdvanced (spelled d).text
  unfold spelled
  cases found : Glossary.lookup d with
  | none => exact counted_isAdvanced d
  | some t =>
    obtain ⟨e, -, -, rfl⟩ := Glossary.exists_entry_of_lookup found
    exact entry_isAdvanced e

/-- An advanced encoding is of the advanced alphabet. -/
theorem encode_isAdvanced (text : String) : IsAdvanced (encode .advanced text) := by
  by_cases empty : text = ""
  · have encoded : encode .advanced "" = "str()" := rfl
    rw [empty, encoded]
    exact .of_all rfl
  · have plus : IsAdvanced "+" := .of_all rfl
    rw [encode_eq_parts empty]
    refine plus.intercalate (fun s mem => ?_)
    obtain ⟨d, -, rfl⟩ := List.mem_map.mp mem
    exact term_isAdvanced d

end Encoding

open Encoding

/-- The alphabet of the basic encoding of a text that is not empty, which is part of the basic
alphabet, and what the alphabets of advanced encodings are part of. Alphabets hold each of their
characters once. -/
theorem alphabet_encode (text : String) :
    (∀ mode, (alphabet (encode mode text)).Pairwise (fun c d => c.toNat < d.toNat)) ∧
    (text ≠ "" →
      (∀ c, c ∈ alphabet (encode .basic text) ↔
        c ∈ ['c', 'h', 'r', 'l', '(', ')', '[', ']'] ∨
        c ∈ ['e', 'n'] ∧ (∃ d ∈ text.toList, d.toNat ≠ 1) ∨
        c ∈ ['b', 'o'] ∧ (∃ d ∈ text.toList, d.toNat = 1) ∨
        c = ',' ∧ (∃ d ∈ text.toList, 2 ≤ d.toNat) ∨
        c = '+' ∧ 2 ≤ text.length) ∧
      ∀ c ∈ alphabet (encode .basic text), c ∈ basicAlphabet.toList) ∧
    ∀ c ∈ alphabet (encode .advanced text),
      c ∈ basicAlphabet.toList ++ ['s', 't', 'y', 'p', 'a'] := by
  refine ⟨fun mode => alphabet_ascends _, fun nonempty => ⟨fun c => ?_, fun c mem => ?_⟩,
    fun c mem => ?_⟩
  · rw [mem_alphabet]
    exact mem_basic nonempty
  · rw [mem_alphabet] at mem
    exact basic_encode nonempty c mem
  · rw [mem_alphabet] at mem
    exact encode_isAdvanced text c mem

/-- A single character with the code 1, whose numeral is a truth. -/
theorem alphabet_encode_truth :
    "\x01" ≠ "" ∧ 'o' ∈ alphabet (encode .basic "\x01") ∧
      'e' ∉ alphabet (encode .basic "\x01") ∧ '+' ∉ alphabet (encode .basic "\x01") := by
  have nonempty : "\x01" ≠ "" := by decide
  have letters : "\x01".toList = ['\x01'] := rfl
  have single : "\x01".length = 1 := rfl
  obtain ⟨members, -⟩ := (alphabet_encode "\x01").2.1 nonempty
  rw [letters, single] at members
  refine ⟨nonempty, (members 'o').mpr ?_, fun mem => ?_, fun mem => ?_⟩
  · simp
  · have written := (members 'e').mp mem
    simp at written
  · have written := (members '+').mp mem
    simp at written

end Lipogram
