import Lipogram.Proofs.Contents
import Lipogram.Proofs.Counting
import Lipogram.Proofs.Reaches

/-!
# Numbers that sources reach

No source reaches a negative number: no operation makes one out of values that hold none
(`carried_natural`), and evaluation begins with none. So what problems say about the numbers that
they were met with is true (`evaluate_natural`): an index out of range is one past the end, a code
without a character is a surrogate or too large, and the numbers of arguments are not those that the
built-ins take.
-/

set_option autoImplicit false

namespace Lipogram

/-! ## Values without negative numbers -/

/-- A value that holds no negative integer, not even inside lists. -/
def Value.IsNatural (v : Value) : Prop :=
  ∀ n, v.Contains (.int n) → 0 ≤ n

namespace Value

/-- The items of a natural list are natural. -/
theorem IsNatural.of_mem {items : List Value} {v : Value} (natural : IsNatural (.list items))
    (mem : v ∈ items) : v.IsNatural :=
  fun n contains => natural n (.inside mem contains)

/-- A list is natural if its items are. -/
theorem natural_list {items : List Value} (natural : ∀ v ∈ items, v.IsNatural) :
    IsNatural (.list items) := by
  intro n contains
  cases contains with
  | inside mem contains => exact natural _ mem n contains

/-- An integer that is not negative is natural. -/
theorem natural_int {n : Int} (h : 0 ≤ n) : IsNatural (.int n) := by
  intro m contains
  cases contains
  exact h

/-- Truth values are natural. -/
theorem natural_bool (b : Bool) : IsNatural (.bool b) := by
  intro n contains
  cases contains

/-- Texts are natural. -/
theorem natural_str (s : String) : IsNatural (.str s) := by
  intro n contains
  cases contains

/-- Built-ins are natural. -/
theorem natural_builtin (f : Builtin) : IsNatural (.builtin f) := by
  intro n contains
  cases contains

/-- If a value without negative integers stands for an integer, it stands for a natural number. -/
theorem IsNatural.toInt_nat {v : Value} (natural : v.IsNatural) {n : Int} (h : v.toInt? = some n) :
    ∃ k : Nat, n = k := by
  refine Int.eq_ofNat_of_zero_le ?_
  cases v with
  | int m =>
    obtain rfl := Option.some.inj h
    exact natural m (.itself _)
  | bool b =>
    obtain rfl := Option.some.inj h
    cases b <;> decide
  | _ => simp [toInt?] at h

end Value

/-! ## Problems that tell the truth -/

/-- What an operation says about the numbers that it refuses is true. -/
def Problem.IsTruthful : Problem → Prop
  | .clash _ => True
  | .outOfRange index length => (length : Int) ≤ index
  | .noCharacter code => 0xD800 ≤ code ∧ code ≤ 0xDFFF ∨ 0x10FFFF < code
  | .arity f _ given =>
    ((f = .len ∨ f = .chr) ∧ given ≠ 1) ∨ ((f = .bool ∨ f = .str) ∧ 2 ≤ given)
  | .malformed _ _ => False
  | .unknownName _ => False

namespace Value

/-- A natural value stands for a natural number, if for any integer. -/
theorem IsNatural.toInt_holds {v : Value} (natural : v.IsNatural) :
    Holds (fun n : Int => ∃ k : Nat, n = k) Problem.IsTruthful v.toInt := by
  unfold toInt
  split
  · next n found => exact natural.toInt_nat found
  · trivial

/-- An index that is no negative number picks an item, or points past the end. -/
theorem itemAt_truthful {α : Type} (items : List α) (k : Nat) :
    Holds (· ∈ items) Problem.IsTruthful (itemAt items (k : Int)) := by
  rw [itemAt_nat]
  split
  · next item found => exact List.mem_of_getElem? found
  · next missing =>
    have past := List.getElem?_eq_none_iff.mp missing
    show (items.length : Int) ≤ k
    exact Int.ofNat_le.mpr past

/-- What is picked from a natural value is natural, and an index out of range is told as it is. -/
theorem pick_truthful {base index : Value} (base_natural : base.IsNatural)
    (index_natural : index.IsNatural) :
    Holds IsNatural Problem.IsTruthful (base.pick index) := by
  have number := index_natural.toInt_holds
  unfold pick
  split
  · next problem met => exact number.of_eq_error met
  · next n met =>
    obtain ⟨k, rfl⟩ := number.of_eq_ok met
    split
    · next s => exact (itemAt_truthful s.toList k).map (fun c _ => natural_str c.toString)
    · next items =>
      have picked := itemAt_truthful items k
      cases found : itemAt items (k : Int) with
      | ok v => exact base_natural.of_mem (picked.of_eq_ok found)
      | error problem => exact picked.of_eq_error found
    · trivial

/-- Sums of natural values are natural. -/
theorem add_natural {a b : Value} (left : a.IsNatural) (right : b.IsNatural) :
    Holds IsNatural Problem.IsTruthful (a.add b) := by
  rcases add_cases a b with ⟨c, sum, adds⟩ | clash
  · rw [sum]
    cases adds with
    | texts s t => exact natural_str (s ++ t)
    | lists vs ws =>
      refine natural_list (fun v mem => ?_)
      rcases List.mem_append.mp mem with mem | mem
      · exact left.of_mem mem
      · exact right.of_mem mem
    | integers first second =>
      obtain ⟨k, rfl⟩ := left.toInt_nat first
      obtain ⟨l, rfl⟩ := right.toInt_nat second
      exact natural_int (by omega)
  · rw [clash]
    trivial

/-- Lengths are natural. -/
theorem length_natural (v : Value) : Holds IsNatural Problem.IsTruthful v.length := by
  unfold length
  split
  · exact natural_int (Int.natCast_nonneg _)
  · exact natural_int (Int.natCast_nonneg _)
  · trivial

/-- A code that is no negative number has a character, or is none that Unicode gives to one. -/
theorem character_truthful {code : Value} (natural : code.IsNatural) :
    Holds IsNatural Problem.IsTruthful code.character := by
  have number := natural.toInt_holds
  unfold character
  split
  · next problem met => exact number.of_eq_error met
  · next n met =>
    obtain ⟨k, rfl⟩ := number.of_eq_ok met
    split
    · exact natural_str _
    · next none_found =>
      have no_scalar : ¬IsScalarValue k := by
        intro scalar
        obtain ⟨c, -, found⟩ := char_of_scalar scalar
        simp [none_found] at found
      unfold IsScalarValue at no_scalar
      show 0xD800 ≤ (k : Int) ∧ (k : Int) ≤ 0xDFFF ∨ 0x10FFFF < (k : Int)
      omega

end Value

/-- Calls with natural values give natural values. -/
theorem Builtin.call_natural (f : Builtin) {args : List Value}
    (natural : ∀ v ∈ args, v.IsNatural) :
    Holds Value.IsNatural Problem.IsTruthful (f.call args) := by
  have single {v : Value} (h : args = [v]) : v.IsNatural := natural v (by simp [h])
  cases f with
  | len =>
    rcases args with _ | ⟨v, _ | ⟨w, rest⟩⟩
    · exact .inl ⟨.inl rfl, by simp⟩
    · exact v.length_natural
    · exact .inl ⟨.inl rfl, by simp⟩
  | chr =>
    rcases args with _ | ⟨v, _ | ⟨w, rest⟩⟩
    · exact .inl ⟨.inr rfl, by simp⟩
    · exact Value.character_truthful (single rfl)
    · exact .inl ⟨.inr rfl, by simp⟩
  | bool =>
    rcases args with _ | ⟨v, _ | ⟨w, rest⟩⟩
    · exact Value.natural_bool false
    · exact Value.natural_bool v.isTruthy
    · exact .inr ⟨.inl rfl, by simp⟩
  | str =>
    rcases args with _ | ⟨v, _ | ⟨w, rest⟩⟩
    · exact Value.natural_str ""
    · exact Value.natural_str v.text
    · exact .inr ⟨.inr rfl, by simp⟩
  | _ => trivial

/-! ## Sources -/

open Reader

/-- The operations of the machine make no negative number and tell no untruth. -/
theorem carried_natural : Carried Value.IsNatural Problem.IsTruthful where
  builtin := Value.natural_builtin
  make maker items natural := by
    cases maker with
    | list => exact Value.natural_list natural
    | call f => exact f.call_natural natural
  add _ _ := Value.add_natural
  pick _ _ := Value.pick_truthful

/-- A problem that is no malformation and no unknown name was met by an operation. -/
theorem Reader.Met.of_operation {E : Problem → Prop} {source : List Char} {problem : Problem}
    (met : Met E source problem) (known : ∀ word, problem ≠ .unknownName word)
    (wellFormed : ∀ offset fault, problem ≠ .malformed offset fault) : E problem := by
  cases met with
  | operation met => exact met
  | unknown _ unknown => exact absurd (Name.unknown unknown).1 (known _)
  | malformed => exact absurd rfl (wellFormed _ _)

/-- A name that a source does not know stands in it, and is the name of no built-in. -/
theorem Reader.Met.unknownName {source : List Char} {word : String}
    (met : Met Problem.IsTruthful source (.unknownName word)) :
    ∃ n : Name, n.text = word ∧ n.text.toList <:+: source ∧ ∀ f : Builtin, f.name ≠ word := by
  generalize problem : Problem.unknownName word = unknown at met
  cases met with
  | operation truthful =>
    subst problem
    exact absurd truthful id
  | @unknown n _ occurs unknown =>
    obtain ⟨rfl, no_builtin⟩ := Name.unknown unknown
    obtain rfl := Problem.unknownName.inj problem
    exact ⟨n, rfl, by simpa [Name.text] using occurs, no_builtin⟩
  | malformed => simp at problem

/-- No source reaches a negative number, neither in what the machine holds while it reads nor in
what a part of the source evaluates to; and problems tell the truth about the numbers and the names
that they were met with. -/
theorem evaluate_natural (source : String) :
    (∀ before after s, source = before ++ after →
      read 0 (.start 0 0) before.toList = .reading s →
      s.Holds Value.IsNatural ∧ ∀ v, s.sum? = some (.ok v) → v.IsNatural) ∧
    (∀ part : String, part.toList <:+: source.toList → ∀ v, evaluate part = .ok v →
      v.IsNatural) ∧
    (∀ index length, evaluate source = .error (.outOfRange index length) →
      (length : Int) ≤ index) ∧
    (∀ code, evaluate source = .error (.noCharacter code) →
      0xD800 ≤ code ∧ code ≤ 0xDFFF ∨ 0x10FFFF < code) ∧
    (∀ f taken given, evaluate source = .error (.arity f taken given) →
      ((f = .len ∨ f = .chr) ∧ given ≠ 1) ∨ ((f = .bool ∨ f = .str) ∧ 2 ≤ given)) ∧
    (∀ word, evaluate source = .error (.unknownName word) →
      ∃ n : Name, n.text = word ∧ n.text.toList <:+: source.toList ∧
        ∀ f : Builtin, f.name ≠ word) := by
  have met := evaluate_met carried_natural source
  refine ⟨?_, ?_, ?_, ?_, ?_, ?_⟩
  · intro before after s split reads
    have reached := read_reaches carried_natural reads
    exact ⟨reached.holds, fun v found => reached.sum carried_natural found⟩
  · intro part _ v value
    exact (evaluate_met carried_natural part).of_eq_ok value
  · intro index length failed
    exact (met.of_eq_error failed).of_operation (by simp) (by simp)
  · intro code failed
    exact (met.of_eq_error failed).of_operation (by simp) (by simp)
  · intro f taken given failed
    exact (met.of_eq_error failed).of_operation (by simp) (by simp)
  · intro word failed
    exact (met.of_eq_error failed).unknownName

/-- A word that begins with the name of a built-in, behind a list and a number. -/
theorem evaluate_natural_word :
    evaluate "[[]][len([])] + lent(]" = .error (.unknownName "lent") ∧
      (∀ f : Builtin, f.name ≠ "lent") ∧
      ∀ v, evaluate "len([])" = .ok v → v.IsNatural := by
  have failed : evaluate "[[]][len([])] + lent(]" = .error (.unknownName "lent") := by rfl
  obtain ⟨-, parts, -, -, -, words⟩ := evaluate_natural "[[]][len([])] + lent(]"
  obtain ⟨n, -, -, no_builtin⟩ := words "lent" failed
  exact ⟨failed, no_builtin, parts "len([])" ⟨"[[]][".toList, "] + lent(]".toList, rfl⟩⟩

end Lipogram
