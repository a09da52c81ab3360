import Lipogram.Descent
import Mathlib.Data.String.Basic

/-!
# Positions in a source

A position at the edge of a character splits a source into the characters in front of it and those
behind it (`exists_stands`). Between two such positions the source can be sliced, and the step
behind a character leads from one to the next.
-/

set_option autoImplicit false

namespace Lipogram.Descent

/-- A position stands in front of the characters `rest`, with which the text ends. -/
def Stands (text : String) (position : Nat) (rest : List Char) : Prop :=
  ∃ before, text.toList = before ++ rest ∧ position = String.utf8Len before

section

variable {text : String} {position : Nat} {mid rest : List Char} {c : Char}

/-- In front of a whole text is its beginning. -/
theorem stands_start (text : String) : Stands text 0 text.toList :=
  ⟨[], rfl, rfl⟩

/-- A position moves by the bytes of the characters that are passed. -/
theorem Stands.past (stands : Stands text position (mid ++ rest)) :
    Stands text (position + String.utf8Len mid) rest := by
  obtain ⟨before, split, rfl⟩ := stands
  exact ⟨before ++ mid, by simp [split], by simp⟩

/-- A position moves by the bytes of the next character. -/
theorem Stands.next (stands : Stands text position (c :: rest)) :
    Stands text (position + c.utf8Size) rest := by
  have behind : Stands text position ([c] ++ rest) := stands
  simpa using behind.past

/-- A position and the bytes behind it make up the text. -/
theorem Stands.size_eq (stands : Stands text position rest) :
    position + String.utf8Len rest = text.utf8ByteSize := by
  obtain ⟨before, split, rfl⟩ := stands
  rw [← String.ofList_toList (s := text), split, String.utf8ByteSize_ofList, String.utf8Len_append]

/-- The position behind the last character is that of the end. -/
theorem Stands.lt_size (stands : Stands text position rest) :
    position < text.utf8ByteSize ↔ rest ≠ [] := by
  have size := stands.size_eq
  cases rest with
  | nil =>
    rw [String.utf8Len_nil, Nat.add_zero] at size
    simp [size]
  | cons c rest =>
    have some_byte := c.utf8Size_pos
    rw [String.utf8Len_cons] at size
    simp only [ne_eq, List.cons_ne_nil, not_false_eq_true, iff_true]
    omega

/-- Of two positions, the one with fewer characters behind it is further on. -/
theorem Stands.le (stands : Stands text position rest) {position' : Nat} {rest' : List Char}
    (stands' : Stands text position' rest') (suffix : rest' <:+ rest) :
    position ≤ position' ∧ (rest'.length < rest.length → position < position') := by
  obtain ⟨mid, rfl⟩ := suffix
  have size := stands.size_eq
  have size' := stands'.size_eq
  rw [String.utf8Len_append] at size
  refine ⟨by omega, fun shorter => ?_⟩
  cases mid with
  | nil => simp at shorter
  | cons c mid =>
    have some_byte := c.utf8Size_pos
    rw [String.utf8Len_cons] at size
    omega

/-- Where characters are split is the edge of a character. -/
theorem Stands.isBoundary (stands : Stands text position rest) : IsBoundary text position := by
  obtain ⟨before, split, rfl⟩ := stands
  refine String.Pos.Raw.isValid_iff_exists_append.mpr
    ⟨String.ofList before, String.ofList rest, ?_, ?_⟩
  · rw [← String.ofList_append, ← split, String.ofList_toList]
  · simp

/-- At the edge of a character the characters are split. -/
theorem exists_stands (boundary : IsBoundary text position) :
    ∃ rest, Stands text position rest := by
  obtain ⟨before, rest, rfl, edge⟩ := String.Pos.Raw.isValid_iff_exists_append.mp boundary
  refine ⟨rest.toList, before.toList, String.toList_append, ?_⟩
  rw [← String.utf8ByteSize_ofList, String.ofList_toList]
  exact congrArg String.Pos.Raw.byteIdx edge

/-- A position at the edge of a character is not past the end. -/
theorem IsBoundary.le_size (boundary : IsBoundary text position) :
    position ≤ text.utf8ByteSize := by
  obtain ⟨rest, stands⟩ := exists_stands boundary
  have size := stands.size_eq
  omega

/-- The characters between two positions can be sliced. -/
theorem Stands.slice (stands : Stands text position (mid ++ rest)) :
    slice? text position (position + String.utf8Len mid) = some (String.ofList mid) := by
  rw [slice?, if_pos ⟨stands.isBoundary, stands.past.isBoundary, by omega⟩]
  obtain ⟨before, split, rfl⟩ := stands
  rw [← String.ofList_toList (s := text), split, ← List.append_assoc, String.extract_of_valid]

/-- The slice from a position to the end is what stands behind it. -/
theorem Stands.slice_rest (stands : Stands text position rest) :
    slice? text position text.utf8ByteSize = some (String.ofList rest) := by
  have whole : Stands text position (rest ++ []) := by simpa using stands
  rw [← stands.size_eq]
  exact whole.slice

end

end Lipogram.Descent
