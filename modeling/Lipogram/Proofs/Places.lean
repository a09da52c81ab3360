import Lipogram.Proofs.Reaches

/-!
# Places of malformations

A malformation points at the right place: the source can be cut at its offset, and the characters on
both sides of the cut are those that its wording is about (`evaluate_malformed_place`). The wording
alone tells which kind of malformation it is.
-/

set_option autoImplicit false

namespace Lipogram

/-! ## Wordings -/

namespace Malformation

/-- The first and the last character of the wording. -/
def ends : Malformation → Char × Char
  | nestedTooDeeply => ('e', 'y')
  | unexpectedEnd => ('u', 't')
  | unexpected _ => ('u', '\'')
  | trailing => ('u', 't')
  | expected _ _ _ => ('e', '\'')
  | unclosed _ => ('e', 't')

variable {fault : Malformation} {c : Char}

/-- The wording for an unexpected character names it. -/
theorem message_of_unexpected (c : Char) :
    (unexpected c).message = "unexpected character '" ++ c.toString ++ "'" := by
  rw [message.eq_def]

/-- The wording for a missing bracket names the bracket and what is found in its place. -/
theorem message_of_expected (closer : Char) (orComma : Bool) (c : Char) :
    (expected closer orComma c).message = "expected " ++ (if orComma then "',' or '" else "'") ++
      closer.toString ++ "', found '" ++ c.toString ++ "'" := by
  rw [message.eq_def]

/-- The wording for a bracket that is not closed names the bracket. -/
theorem message_of_unclosed (closer : Char) :
    (unclosed closer).message = "expected '" ++ closer.toString ++ "', found end of input" := by
  rw [message.eq_def]

/-- The first and the last character of a wording are those of its kind. -/
theorem ends_of_message {text : String} {first last : Char} (worded : fault.message = text)
    (head : text.toList.head? = some first) (tail : text.toList.getLast? = some last) :
    fault.ends = (first, last) := by
  subst worded
  cases fault with
  | unexpected found =>
    rw [message_of_unexpected] at head tail
    obtain rfl : 'u' = first := by simpa using head
    obtain rfl : '\'' = last := by simpa using tail
    rfl
  | expected closer orComma found =>
    rw [message_of_expected] at head tail
    obtain rfl : 'e' = first := by simpa using head
    obtain rfl : '\'' = last := by simpa [List.getLast?_cons] using tail
    rfl
  | unclosed closer =>
    rw [message_of_unclosed] at head tail
    obtain rfl : 'e' = first := by simpa using head
    obtain rfl : 't' = last := by simpa using tail
    rfl
  | _ =>
    obtain rfl := Option.some.inj head
    obtain rfl := Option.some.inj tail
    rfl

/-- Only trailing input is worded as such. -/
theorem eq_trailing (worded : fault.message = "unexpected trailing input") : fault = .trailing := by
  have ends : fault.ends = ('u', 't') := ends_of_message worded rfl rfl
  cases fault with
  | trailing => rfl
  | unexpectedEnd => exact absurd worded (by decide)
  | _ => simp [Malformation.ends] at ends

/-- Only deep nesting is worded as such. -/
theorem eq_nested (worded : fault.message = "expression nested too deeply") :
    fault = .nestedTooDeeply := by
  have ends : fault.ends = ('e', 'y') := ends_of_message worded rfl rfl
  cases fault with
  | nestedTooDeeply => rfl
  | _ => simp [Malformation.ends] at ends

/-- Only an unexpected character is worded as such, and it is the one that is named. -/
theorem eq_unexpected (worded : fault.message = "unexpected character '" ++ c.toString ++ "'") :
    fault = .unexpected c := by
  have ends : fault.ends = ('u', '\'') := ends_of_message worded (by simp) (by simp)
  cases fault with
  | unexpected found =>
    rw [message_of_unexpected] at worded
    have found_c := congrArg (fun s => s.toList.reverse.take 2) worded
    obtain rfl : found = c := by simpa using found_c
    rfl
  | _ => simp [Malformation.ends] at ends

/-- Only a missing bracket is worded as such, and the character that is named stands in its
place. -/
theorem eq_expected {wanted : String}
    (worded : fault.message = "expected " ++ wanted ++ ", found '" ++ c.toString ++ "'") :
    ∃ closer orComma, fault = .expected closer orComma c := by
  have ends : fault.ends = ('e', '\'') :=
    ends_of_message worded (by simp) (by simp [List.getLast?_cons])
  cases fault with
  | expected closer orComma found =>
    rw [message_of_expected] at worded
    have found_c := congrArg (fun s => s.toList.reverse.take 2) worded
    obtain rfl : found = c := by simpa using found_c
    exact ⟨closer, orComma, rfl⟩
  | _ => simp [Malformation.ends] at ends

/-! ## Both sides of a place -/

variable {before after : List Char}

/-- Behind a malformation at the end of the source there is nothing. -/
theorem Between.nothing_behind (place : fault.Between before after) (atEnd : fault.IsAtEnd) :
    after = [] := by
  cases atEnd with
  | unexpectedEnd =>
    cases place
    rfl
  | unclosed closer =>
    cases place
    rfl

/-- An unexpected character stands behind the place. -/
theorem Between.found_behind (place : Between (.unexpected c) before after) :
    after.head? = some c := by
  cases place
  rfl

/-- The character that stands for a missing bracket is in front of the place. -/
theorem Between.found_in_front {closer : Char} {orComma : Bool}
    (place : Between (.expected closer orComma c) before after) : before.getLast? = some c := by
  cases place
  exact List.getLast?_concat

/-- Trailing input begins with a character that could not go on with the expression. -/
theorem Between.goes_on (place : Between .trailing before after) :
    ∃ c, after.head? = some c ∧ Text.isBlank c = false ∧ c ≠ '+' ∧ c ≠ '[' := by
  cases place with
  | trailing notBlank noPlus noIndex => exact ⟨_, rfl, notBlank, noPlus, noIndex⟩

/-- In front of nesting that is too deep a bracket opens. -/
theorem Between.opensLast (place : Between .nestedTooDeeply before after) : OpensLast before := by
  cases place with
  | nested opens => exact opens

end Malformation

/-! ## Sources -/

open Reader

/-- A malformation of a source cuts the source in two at its place. -/
theorem evaluate_malformed_between {source : String} {offset : Nat} {fault : Malformation}
    (h : evaluate source = .error (.malformed offset fault)) :
    ∃ before after : String, source = before ++ after ∧ before.utf8ByteSize = offset ∧
      fault.Between before.toList after.toList := by
  have met := (evaluate_met carried_semantic source).of_eq_error h
  generalize problem : Problem.malformed offset fault = malformed at met
  cases met with
  | operation semantic => exact absurd problem.symm (semantic.ne_malformed offset fault)
  | @unknown n _ _ unknown =>
    exact absurd (problem.trans (Name.unknown unknown).1) (by simp)
  | @malformed _ before after split place =>
    obtain ⟨rfl, rfl⟩ := Problem.malformed.inj problem
    refine ⟨String.ofList before, String.ofList after, ?_, rfl, by simpa using place⟩
    rw [← String.ofList_append, ← split, String.ofList_toList]

/-- Malformations point at the right place. The source can be cut at the offset; one that is met at
the end of the source stands there; an unexpected character stands behind the offset, and one that
was found in place of another in front of it; input behind the expression begins with a character
that does not go on with it; and a nesting that is too deep stands behind an opening bracket, with
nothing but blanks between them. -/
theorem evaluate_malformed_place {source : String} {offset : Nat} {fault : Malformation}
    (h : evaluate source = .error (.malformed offset fault)) :
    ∃ before after : String, source = before ++ after ∧ before.utf8ByteSize = offset ∧
      offset ≤ source.utf8ByteSize ∧
      ((∃ beginning, fault.message = beginning ++ "end of input") →
        offset = source.utf8ByteSize) ∧
      (∀ c, fault.message = "unexpected character '" ++ c.toString ++ "'" →
        after.toList.head? = some c) ∧
      (∀ wanted c, fault.message = "expected " ++ wanted ++ ", found '" ++ c.toString ++ "'" →
        before.toList.getLast? = some c) ∧
      (fault.message = "unexpected trailing input" → offset < source.utf8ByteSize ∧
        ∃ c, after.toList.head? = some c ∧ Text.isBlank c = false ∧ c ≠ '+' ∧ c ≠ '[') ∧
      (fault.message = "expression nested too deeply" →
        ∃ bracket, (before.toList.filter (fun c => !Text.isBlank c)).getLast? = some bracket ∧
          (bracket = '[' ∨ bracket = '(')) := by
  obtain ⟨before, after, split, size, place⟩ := evaluate_malformed_between h
  have sizes : source.utf8ByteSize = offset + after.utf8ByteSize := by
    rw [split, String.utf8ByteSize_append, size]
  refine ⟨before, after, split, size, by omega, ?_, ?_, ?_, ?_, ?_⟩
  · intro worded
    have nothing := place.nothing_behind (Malformation.message_at_end.mp worded)
    obtain rfl := String.toList_eq_nil_iff.mp nothing
    exact sizes.symm
  · intro c worded
    obtain rfl := Malformation.eq_unexpected worded
    exact place.found_behind
  · intro wanted c worded
    obtain ⟨closer, orComma, rfl⟩ := Malformation.eq_expected worded
    exact place.found_in_front
  · intro worded
    obtain rfl := Malformation.eq_trailing worded
    obtain ⟨c, stands, own⟩ := place.goes_on
    have some_behind : after.utf8ByteSize ≠ 0 := by
      intro zero
      obtain rfl := String.utf8ByteSize_eq_zero_iff.mp zero
      simp at stands
    exact ⟨by omega, c, stands, own⟩
  · intro worded
    obtain rfl := Malformation.eq_nested worded
    exact place.opensLast

/-- A source that goes on behind its expression, with a character of two bytes in front of the
place. -/
theorem evaluate_malformed_place_list :
    evaluate "\u00a0[] )" = .error (.malformed 5 .trailing) ∧
      ∃ before after : String, "\u00a0[] )" = before ++ after ∧ before.utf8ByteSize = 5 ∧
        ∃ c, after.toList.head? = some c ∧ Text.isBlank c = false := by
  have trailing : evaluate "\u00a0[] )" = .error (.malformed 5 .trailing) := by rfl
  obtain ⟨before, after, split, size, -, -, -, -, of_trailing, -⟩ :=
    evaluate_malformed_place trailing
  obtain ⟨-, c, stands, notBlank, -⟩ := of_trailing rfl
  exact ⟨trailing, before, after, split, size, c, stands, notBlank⟩

end Lipogram
