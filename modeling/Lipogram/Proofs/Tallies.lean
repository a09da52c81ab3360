import Lipogram.Proofs.Lengths
import Lipogram.Text.Occurrences

/-!
# Shapes of numerals

A numeral above one is a list of as many empty lists as it counts, with commas between them, inside
of a call (`Numeral.several_letters`). So the empty lists and the commas in its text can be counted,
and the space that is reserved for it is the space that it takes, if a machine word can hold that
number at all (`numeral_shape`).
-/

set_option autoImplicit false

namespace Lipogram.Numeral

/-! ## Letters -/

/-- The letters of a numeral above one: those of the first empty list and what is in front of it, a
comma and an empty list for each of the others, and the brackets that close. -/
theorem several_letters (n : Nat) :
    (render (n + 2)).toList =
      "len([[]".toList ++
        ((List.replicate (n + 1) [',', '[', ']']).flatten ++ [']', ')']) := by
  have opening : ("len([" ++ "[]").toList = "len([[]".toList := rfl
  have closing : "])".toList = [']', ')'] := rfl
  rw [render, String.toList_append, pushLists_toList, opening, closing, List.append_assoc]

/-- Each empty list behind a comma is one occurrence more. -/
theorem occurrences_items (n : Nat) (cs : List Char) :
    Text.occurrencesBehind ['[', ']'] 0 ((List.replicate n [',', '[', ']']).flatten ++ cs) =
      n + Text.occurrencesBehind ['[', ']'] 0 cs := by
  have item (rest : List Char) : Text.occurrencesBehind ['[', ']'] 0 ([',', '[', ']'] ++ rest) =
      Text.occurrencesBehind ['[', ']'] 0 rest + 1 := rfl
  induction n with
  | zero => simp
  | succ n ih =>
    rw [List.replicate_succ, List.flatten_cons, List.append_assoc, item, ih]
    omega

/-- A numeral from two on is written with as many empty lists as its number tells. -/
theorem several_lists (n : Nat) : Text.occurrences "[]" (render (n + 2)) = n + 2 := by
  have before (rest : List Char) :
      Text.occurrencesBehind ['[', ']'] 0 ("len([[]".toList ++ rest) =
        Text.occurrencesBehind ['[', ']'] 0 rest + 1 := rfl
  have behind : Text.occurrencesBehind ['[', ']'] 0 [']', ')'] = 0 := rfl
  have sought : "[]".toList = ['[', ']'] := rfl
  rw [Text.occurrences, several_letters, sought, before, occurrences_items, behind]

/-- It has one comma less than lists. -/
theorem several_commas (n : Nat) : (render (n + 2)).toList.count ',' = n + 1 := by
  have before : "len([[]".toList.count ',' = 0 := by decide
  have item : [',', '[', ']'].count ',' = 1 := by decide
  have behind : [']', ')'].count ',' = 0 := by decide
  rw [several_letters, List.count_append, List.count_append, List.count_flatten, List.map_replicate,
    List.sum_replicate, before, item, behind]
  simp

/-! ## Space -/

/-- A checked product is the product of the numbers. -/
theorem checkedMul_eq_some {a b c : UInt64} :
    checkedMul a b = some c ↔ c.toNat = a.toNat * b.toNat := by
  have word := c.toNat_lt_size
  unfold checkedMul
  split_ifs with fits
  · rw [Option.some_inj, ← UInt64.toNat_inj, UInt64.toNat_mul, Nat.mod_eq_of_lt fits]
    exact eq_comm
  · simp only [false_iff]
    omega

/-- A checked sum is the sum of the numbers. -/
theorem checkedAdd_eq_some {a b c : UInt64} :
    checkedAdd a b = some c ↔ c.toNat = a.toNat + b.toNat := by
  have word := c.toNat_lt_size
  unfold checkedAdd
  split_ifs with fits
  · rw [Option.some_inj, ← UInt64.toNat_inj, UInt64.toNat_add, Nat.mod_eq_of_lt fits]
    exact eq_comm
  · simp only [false_iff]
    omega

/-- The space for a numeral is never a number that does not fit into a word, cut to size. -/
theorem space_eq_some {n space : UInt64} :
    space? n = some space ↔ space.toNat = 3 * n.toNat + 6 := by
  have three : (3 : UInt64).toNat = 3 := rfl
  have six : (6 : UInt64).toNat = 6 := rfl
  have word := space.toNat_lt_size
  unfold space?
  rw [Option.bind_eq_some_iff]
  simp only [checkedMul_eq_some, checkedAdd_eq_some, three, six]
  constructor
  · rintro ⟨m, product, sum⟩
    omega
  · intro total
    have fits : n.toNat * 3 < UInt64.size := by omega
    have product : (UInt64.ofNat (n.toNat * 3)).toNat = n.toNat * 3 :=
      UInt64.toNat_ofNat_of_lt' fits
    exact ⟨_, product, by omega⟩

/-- The space for a numeral is three bytes for each list and six more, unless that is no word. -/
theorem space_toNat (n : UInt64) :
    (space? n).map UInt64.toNat =
      if 3 * n.toNat + 6 < 2 ^ 64 then some (3 * n.toNat + 6) else none := by
  split_ifs with fits
  · have number : (UInt64.ofNat (3 * n.toNat + 6)).toNat = 3 * n.toNat + 6 :=
      UInt64.toNat_ofNat_of_lt' fits
    rw [space_eq_some.mpr number, Option.map_some, number]
  · rw [Option.map_eq_none_iff, Option.eq_none_iff_forall_ne_some]
    intro space found
    have word := space.toNat_lt
    rw [space_eq_some.mp found] at word
    exact fits word

end Lipogram.Numeral

namespace Lipogram

/-- The shape and the size of a numeral above one: as many empty lists as it counts, one comma less,
and six bytes beside three for each list. The space that is reserved for it is exactly that, or
none if no word can hold the number of bytes. -/
theorem numeral_shape (n : UInt64) :
    (2 ≤ n.toNat →
      Text.occurrences "[]" (Numeral.render n.toNat) = n.toNat ∧
      (Numeral.render n.toNat).toList.count ',' = n.toNat - 1 ∧
      (Numeral.render n.toNat).utf8ByteSize = 3 * n.toNat + 6 ∧
      ∀ space, Numeral.space? n = some space →
        space.toNat = (Numeral.render n.toNat).utf8ByteSize) ∧
    (Numeral.space? n).map UInt64.toNat =
      if 3 * n.toNat + 6 < 2 ^ 64 then some (3 * n.toNat + 6) else none := by
  refine ⟨fun several => ?_, Numeral.space_toNat n⟩
  have size : (Numeral.render n.toNat).utf8ByteSize = 3 * n.toNat + 6 := by
    rw [Numeral.render_eq_text, Numeral.expr_size, Numeral.size, if_neg (by omega),
      if_neg (by omega)]
  obtain ⟨m, counted⟩ := Nat.exists_eq_add_of_le' several
  refine ⟨?_, ?_, size, fun space found => ?_⟩
  · rw [counted]
    exact Numeral.several_lists m
  · rw [counted]
    exact Numeral.several_commas m
  · rw [size]
    exact Numeral.space_eq_some.mp found

/-- The numeral of the code of the letter H. -/
theorem numeral_shape_seventy_two :
    2 ≤ (72 : UInt64).toNat ∧
      Text.occurrences "[]" (Numeral.render 72) = 72 ∧
      (Numeral.render 72).toList.count ',' = 71 ∧
      (Numeral.render 72).utf8ByteSize = 222 ∧
      Numeral.space? 72 = some 222 ∧
      (222 : UInt64).toNat = (Numeral.render 72).utf8ByteSize := by
  have several : 2 ≤ (72 : UInt64).toNat := by decide
  have space : Numeral.space? 72 = some 222 := by decide
  obtain ⟨lists, commas, size, exact_space⟩ := (numeral_shape 72).1 several
  exact ⟨several, lists, commas, size, space, exact_space 222 space⟩

end Lipogram
