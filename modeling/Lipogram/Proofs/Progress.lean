import Lipogram.Proofs.Descending

/-!
# Progress of the rules

From every position at the edge of a character, each of the rules comes to an end, further on and
inside of the source. A rule of the grammar that has a value has taken a step, and so has each turn
of a loop but the last (`Progress`). Therefore descent comes to an end on every source
(`rules_come_to_ends`).
-/

set_option autoImplicit false

namespace Lipogram.Descent

/-- A rule comes to an end: not in front of the position where it begins, and not past the end of
the source; and behind that position, if it has a value that says it has moved. -/
def Advances {α : Type} (source : String) (rule : Nat → Rule α) (position : Nat)
    (moved : α → Prop) : Prop :=
  ∃ result stop, Ends rule position result stop ∧ position ≤ stop ∧ stop ≤ source.utf8ByteSize ∧
    ∀ a, result = .ok a → moved a → position < stop

/-- A turn that is not the last one of its loop. -/
def Yields {σ : Type} : ForInStep σ → Prop
  | .yield _ => True
  | .done _ => False

/-- All rules come to an end from a position on, and with a value they have moved. -/
structure Progress (source : String) (position : Nat) : Prop where
  peek : Advances source (fun _ => peek source) position (fun _ => False)
  bump : Advances source (fun _ => bump source) position (fun next => next.isSome)
  skipBlanks : Advances source (skipBlanks source) position (fun _ => False)
  expect (closer : Char) : Advances source (expect source closer) position (fun _ => True)
  name : Advances source (name source) position (fun word => word ≠ "")
  expr (depth : Nat) : Advances source (expr source · depth) position (fun _ => True)
  nextTerm (depth : Nat) (sum : Value) :
    Advances source (nextTerm source · depth sum) position Yields
  term (depth : Nat) : Advances source (term source · depth) position (fun _ => True)
  nextIndex (depth : Nat) (base : Value) :
    Advances source (nextIndex source · depth base) position Yields
  primary (depth : Nat) : Advances source (primary source · depth) position (fun _ => True)
  items (closer : Char) (depth : Nat) :
    Advances source (items source · closer depth) position (fun _ => True)
  nextItem (closer : Char) (depth : Nat) (done : List Value) :
    Advances source (nextItem source · closer depth done) position Yields

section

variable {α : Type} {source : String} {depth p : Nat} {after : List Char} {rule : Nat → Rule α}
  {P : α → Nat → List Char → Prop} {E : Problem → Prop}

/-- A rule that leaves fewer characters than it began with moves forward. -/
theorem Meets.advances (meets : Meets source rule p after P E) (stands : Stands source p after)
    {moved : α → Prop} (fewer : ∀ a q rest, P a q rest → moved a → rest.length < after.length) :
    Advances source rule p moved := by
  obtain ⟨result, q, rest, ends, stands', suffix, good⟩ := meets
  obtain ⟨le, lt⟩ := stands.le stands' suffix
  refine ⟨result, q, ends, le, stands'.isBoundary.le_size, ?_⟩
  rintro a rfl has_moved
  exact lt (fewer a q rest good has_moved)

/-- What a rule comes to, without regard to the machine. -/
theorem Matches.meets {start : Reader.Prospect} {Q : α → List Char → Prop}
    {target : α → Nat → List Char → Reader.Prospect}
    (goes_on : Matches source depth start rule p after Q target) :
    Meets source rule p after (fun a _ rest => Q a rest) (fun _ => True) :=
  Meets.imp goes_on (fun _ _ _ _ good => good.1) (fun _ _ => trivial)

/-- A rule that leaves fewer characters whenever it has a value. -/
theorem Meets.advances_always
    (meets : Meets source rule p after (fun _ _ rest => rest.length < after.length) E)
    (stands : Stands source p after) (moved : α → Prop) : Advances source rule p moved :=
  meets.advances stands (fun _ _ _ fewer _ => fewer)

/-- A turn of a loop that goes on moves forward. -/
theorem Matches.turn_advances {σ : Type} {turn : Nat → Rule (ForInStep σ)}
    {start : Reader.Prospect} {Goes Ends : List Char → Prop}
    {target : ForInStep σ → Nat → List Char → Reader.Prospect}
    (goes_on : Matches source depth start turn p after (Turned Goes Ends after.length) target)
    (stands : Stands source p after) : Advances source turn p Yields := by
  refine goes_on.meets.advances stands ?_
  rintro (v | v) q rest turned moved
  · exact moved.elim
  · exact turned.2

/-! ## Brackets

The machine knows the two closing brackets of the grammar only; that the items of a bracket come to
an end does not depend on the character that closes it. -/

/-- Expecting a bracket ends, and leaves fewer characters if it succeeds. -/
theorem meets_expect (closer : Char) (stands : Stands source p after) :
    Meets source (expect source closer) p after (fun _ _ rest => rest.length < after.length)
      (fun _ => True) := by
  refine (meets_skipWhile Text.isBlank stands).bind ?_
  rintro ⟨⟩ q rest stands suffix -
  have not_longer := suffix.length_le
  cases rest with
  | nil =>
    refine (meets_bump_end stands).bind ?_
    rintro _ _ _ past - ⟨rfl, rfl, rfl⟩
    exact meets_malformed past trivial
  | cons c rest =>
    refine (meets_bump stands).bind ?_
    rintro _ _ _ past - ⟨rfl, rfl, rfl⟩
    simp only [List.length_cons] at not_longer
    by_cases closes : c = closer
    · subst closes
      simp only [if_true]
      exact meets_pure past (by omega)
    · simp only [closes, if_false]
      exact meets_malformed past trivial

/-- One more item ends, and leaves fewer characters if it succeeds. -/
theorem meets_nextItem (closer : Char) (depth : Nat) (done : List Value)
    (stands : Stands source p after) :
    Meets source (nextItem source · closer depth done) p after
      (fun _ _ rest => rest.length < after.length) (fun _ => True) := by
  refine Meets.succ ?_
  simp only [nextItem]
  refine (matches_expr depth stands).meets.bind ?_
  rintro v q rest stands - ⟨fewer, -⟩
  refine (meets_skipWhile Text.isBlank stands).bind ?_
  rintro ⟨⟩ q more stands suffix -
  have not_longer := suffix.length_le
  cases more with
  | nil =>
    refine (meets_bump_end stands).bind ?_
    rintro _ _ _ past - ⟨rfl, rfl, rfl⟩
    exact meets_malformed past trivial
  | cons c more =>
    refine (meets_bump stands).bind ?_
    rintro _ _ _ past - ⟨rfl, rfl, rfl⟩
    simp only [List.length_cons] at not_longer
    dsimp only
    split_ifs
    · exact meets_pure past (by omega)
    · exact meets_pure past (by omega)
    · exact meets_malformed past trivial

/-- The items of a bracket end, and leave fewer characters if they succeed. -/
theorem meets_items (closer : Char) (depth : Nat) (stands : Stands source p after) :
    Meets source (items source · closer depth) p after
      (fun _ _ rest => rest.length < after.length) (fun _ => True) := by
  refine Meets.succ ?_
  simp only [items]
  refine (meets_skipWhile Text.isBlank stands).bind ?_
  rintro ⟨⟩ q rest stands suffix -
  have not_longer := suffix.length_le
  refine (meets_peek stands).bind ?_
  rintro _ q rest stands - ⟨rfl, rfl, rfl⟩
  by_cases closes : rest.head? = some closer
  · obtain ⟨rest, rfl⟩ := List.head?_eq_some_iff.mp closes
    simp only [closes, if_true]
    refine (meets_bump stands).bind ?_
    rintro _ _ _ past - ⟨rfl, rfl, rfl⟩
    simp only [List.length_cons] at not_longer
    exact meets_pure past (by omega)
  · simp only [closes, if_false]
    refine Meets.loop (fun fuel => nextItem source fuel closer depth) (fun _ _ _ => True)
      rest.length ?_ le_rfl stands trivial
    intro done q more short stands _
    refine (meets_nextItem closer depth done stands).imp ?_ (fun _ met => met)
    rintro (all | all) q last - fewer
    · exact (by omega : last.length < after.length)
    · exact ⟨trivial, fewer⟩

end

/-- From every position at the edge of a character all rules come to an end, and to progress. -/
theorem progress_of_stands {source : String} {p : Nat} {after : List Char}
    (stands : Stands source p after) : Progress source p where
  peek := by
    refine (meets_peek (E := fun _ => True) stands).advances stands ?_
    intro _ _ _ _ moved
    exact moved.elim
  bump := by
    cases after with
    | nil =>
      refine (meets_bump_end (E := fun _ => True) stands).advances stands ?_
      rintro _ _ _ ⟨rfl, -⟩ moved
      simp at moved
    | cons c after =>
      refine (meets_bump (E := fun _ => True) stands).advances stands ?_
      rintro _ _ _ ⟨-, -, rfl⟩ -
      simp
  skipBlanks := by
    refine (meets_skipWhile (E := fun _ => True) Text.isBlank stands).advances stands ?_
    intro _ _ _ _ moved
    exact moved.elim
  expect closer := (meets_expect closer stands).advances_always stands _
  name := by
    refine (meets_name (E := fun _ => True) stands).advances stands ?_
    rintro _ _ _ ⟨rfl, rfl, -⟩ moved
    have letters : after.takeWhile continuesName ≠ [] := fun none => moved (by rw [none])
    have split := congrArg List.length
      (List.takeWhile_append_dropWhile (p := continuesName) (l := after))
    have some_letter := List.length_pos_iff.mpr letters
    rw [List.length_append] at split
    omega
  expr depth := by
    refine (matches_expr depth stands).meets.advances stands ?_
    rintro _ _ _ ⟨fewer, -⟩ -
    exact fewer
  nextTerm depth sum :=
    (matches_nextTerm depth (exprsMatch source _) sum stands).turn_advances stands
  term depth := by
    refine (matches_term depth (exprsMatch source _) stands).meets.advances stands ?_
    rintro _ _ _ ⟨fewer, -⟩ -
    exact fewer
  nextIndex depth base :=
    (matches_nextIndex depth (exprsMatch source _) base stands).turn_advances stands
  primary depth :=
    (matches_primary depth (exprsMatch source _) stands).meets.advances_always stands _
  items closer depth := (meets_items closer depth stands).advances_always stands _
  nextItem closer depth done :=
    (meets_nextItem closer depth done stands).advances_always stands _

/-- The rules always come to an end and make progress: from every position at the edge of a
character each of them ends, not in front of that position and not past the end of the source; one
that has a value, and a turn that is followed by another one, ends further on. And descent comes to
an end on every source, with the outcome of the source. -/
theorem rules_come_to_ends (source : String) :
    (∀ position, IsBoundary source position → Progress source position) ∧
      ∃ stop, Ends (Descent.evaluate source) 0 (ofOutcome (Lipogram.evaluate source)) stop := by
  constructor
  · intro position boundary
    obtain ⟨after, stands⟩ := exists_stands boundary
    exact progress_of_stands stands
  · obtain ⟨stop, ends, -⟩ := evaluate_ends source
    exact ⟨stop, ends⟩

/-- Behind a letter of two bytes: a list that is not closed. -/
theorem rules_come_to_ends_unclosed :
    IsBoundary "é[ [" 2 ∧ Progress "é[ [" 2 ∧
      ∃ stop, Ends (Descent.evaluate "é[ [") 0 (ofOutcome (Lipogram.evaluate "é[ [")) stop := by
  have boundary : IsBoundary "é[ [" 2 := by decide
  obtain ⟨progress, ends⟩ := rules_come_to_ends "é[ ["
  exact ⟨boundary, progress 2 boundary, ends⟩

end Lipogram.Descent
