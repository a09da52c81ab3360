import Lipogram.Numeral

/-!
# The glossary of letters

Letters that are written as a subscript into the printed form of a built-in, which is shorter than
counting up to their code.
-/

set_option autoImplicit false

namespace Lipogram.Glossary

/-- A letter, and where it stands in the printed form of a built-in. -/
structure Entry where
  letter : Char
  source : Builtin
  index : Nat

/-- All entries, in the order of their letters. -/
def entries : List Entry :=
  [⟨'a', .str, 3⟩, ⟨'b', .len, 1⟩, ⟨'c', .str, 1⟩, ⟨'e', .type, 11⟩, ⟨'f', .len, 10⟩,
    ⟨'h', .hash, 19⟩, ⟨'i', .len, 3⟩, ⟨'l', .len, 4⟩, ⟨'n', .len, 21⟩, ⟨'o', .bool, 9⟩,
    ⟨'p', .repr, 21⟩, ⟨'r', .str, 10⟩, ⟨'s', .str, 4⟩, ⟨'t', .str, 9⟩, ⟨'u', .len, 2⟩,
    ⟨'y', .type, 9⟩]

/-- The term that picks the letter of an entry. -/
def Entry.term (e : Entry) : Term :=
  .pick (.call Builtin.str.toName [(Term.name e.source.toName).toExpr]) (Numeral.expr e.index)

/-- The entry of a letter. -/
def find? (letter : Char) : Option Entry :=
  entries.find? (fun e => e.letter == letter)

/-- The term for a letter, if the glossary has one. -/
def lookup (letter : Char) : Option Term :=
  (find? letter).map Entry.term

/-- Each letter stands where its entry says. -/
theorem letter_at_index (e : Entry) (h : e ∈ entries) :
    e.source.text.toList[e.index]? = some e.letter := by
  simp only [entries, List.mem_cons, List.not_mem_nil, or_false] at h
  rcases h with h | h | h | h | h | h | h | h | h | h | h | h | h | h | h | h <;> subst h <;> rfl

end Lipogram.Glossary
