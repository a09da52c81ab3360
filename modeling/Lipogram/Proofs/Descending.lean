import Lipogram.Proofs.Matching
import Lipogram.Proofs.PresentParts

/-!
# Descent and machine

The rules of the grammar come to what the machine comes to, one by one. They call each other at the
same position or further on, and an expression begins inside of a bracket only behind the character
that opens it. So what the rules do is known by induction on the characters that are left
(`matches_expr`), and descent comes to the outcome of the source (`evaluate_ends`).
-/

set_option autoImplicit false

namespace Lipogram.Descent

open Reader (Prospect Maker Frame deepestLevel)
open Reader.Prospect

section

variable {source : String} {depth p : Nat} {after : List Char}

/-- Blanks behind a sum may be passed. -/
theorem skips_blanks_ofSum (sum : Value) :
    ofSum sum p after = ofSum sum (p + String.utf8Len (after.takeWhile Text.isBlank))
      (after.dropWhile Text.isBlank) := by
  unfold ofSum
  rw [ofFocus_blanks (fun _ => by simp)]

/-- What a rule for an expression comes to. -/
def ExprMatches (source : String) (depth p : Nat) (after : List Char) : Prop :=
  Matches source depth (ofExpr p after) (fun fuel => expr source fuel depth) p after
    (fun _ rest => rest.length < after.length ∧ EndsSum rest ∧ depth ≤ deepestLevel) ofSum

/-- What rules for expressions come to in front of less than `n` characters. -/
def ExprsMatch (source : String) (n : Nat) : Prop :=
  ∀ {depth p after}, after.length < n → Stands source p after → ExprMatches source depth p after

/-- What is known in front of some characters is known in front of fewer. -/
theorem ExprsMatch.mono {m n : Nat} (known : ExprsMatch source n) (le : m ≤ n) :
    ExprsMatch source m :=
  fun less stands => known (by omega) stands

/-- Behind the index of a subscript its bracket must close. -/
theorem matches_expect {base v : Value} (stands : Stands source p after) (ends : EndsSum after) :
    Matches source depth ((ofSum v p after).inside (.index base))
      (fun fuel => expect source ']' fuel) p after (fun _ rest => rest.length < after.length)
      (fun _ q rest => Prospect.ofOutcome (base.pick v) (fun w => ofFocus (.term w) q rest)) := by
  refine Matches.behind_no_blanks stands ends.endsTerm ?_
  cases after with
  | nil =>
    refine Matches.behind_bump_end stands ?_
    exact matches_malformed stands (index_unclosed v base)
  | cons c rest =>
    refine Matches.behind_bump stands (fun past => ?_)
    by_cases closes : c = ']'
    · subst closes
      simp only [if_true]
      exact matches_pure past (by simp) (closes_index v base)
    · simp only [closes, if_false]
      exact matches_malformed past (index_unexpected v base ends closes)

/-- A turn of the loop over the items of a bracket. -/
theorem matches_nextItem {n : Nat} (known : ExprsMatch source n) (maker : Maker)
    (done : List Value) (short : after.length < n) (stands : Stands source p after) :
    Matches source depth ((ofExpr p after).inside (.items maker done.reverse))
      (fun fuel => nextItem source fuel maker.closer (depth + 1) done) p after
      (Turned (fun _ => True) (fun rest => rest.length < after.length) after.length)
      (turnTarget (fun all q rest => (ofExpr q rest).inside (.items maker all.reverse))
        (ofMade maker)) := by
  refine Meets.succ ?_
  simp only [nextItem]
  refine ((known short stands).inside (.items maker done.reverse)).bind ?_
  rintro v q rest stands - ⟨fewer, ends, shallow⟩
  refine Matches.behind_no_blanks stands ends.endsTerm ?_
  cases rest with
  | nil =>
    refine Matches.behind_bump_end stands ?_
    exact matches_malformed stands (items_unclosed maker _ v)
  | cons c rest =>
    refine Matches.behind_bump stands (fun past => ?_)
    simp only [List.length_cons] at fewer
    by_cases comma : c = ','
    · subst comma
      simp only [if_true]
      refine meets_pure past ⟨⟨trivial, by omega⟩, ?_⟩
      intro frames left inside
      -- no item of the bracket stands deeper than the first one, which did not stand too deep
      have in_reach : (Frame.items maker (v :: done.reverse) left :: frames).length ≤
          deepestLevel := by
        rw [List.length_cons, inside]
        exact shallow
      rw [inside_comma]
      show _ = ofExpr _ rest (.items maker (done ++ [v]).reverse left :: frames) none
      rw [List.reverse_concat, expr_begins in_reach]
    · by_cases closes : c = maker.closer
      · subst closes
        simp only [comma, if_true, if_false]
        refine matches_pure past (show rest.length < after.length by omega) ?_
        rw [closes_items, List.reverse_cons, List.reverse_reverse]
        rfl
      · simp only [comma, closes, if_false]
        exact matches_malformed past (item_unexpected maker _ v ends comma closes)

/-- The items of a bracket that has opened. -/
theorem matches_items {n : Nat} (known : ExprsMatch source n) (maker : Maker)
    (short : after.length < n) (stands : Stands source p after) :
    Matches source depth (ofFocus (.opened maker) p after)
      (fun fuel => items source fuel maker.closer (depth + 1)) p after
      (fun _ rest => rest.length < after.length) (ofMade maker) := by
  refine Meets.succ ?_
  simp only [items]
  refine Matches.behind_blanks (ofFocus (.opened maker)) stands
    (ofFocus_blanks (fun _ => by simp)) ?_
  intro q rest stands suffix notBlank _
  have not_longer := suffix.length_le
  refine Matches.behind_peek stands ?_
  by_cases closes : rest.head? = some maker.closer
  · obtain ⟨rest, rfl⟩ := List.head?_eq_some_iff.mp closes
    simp only [closes, if_true]
    simp only [List.length_cons] at not_longer
    refine Matches.behind_bump stands (fun past => ?_)
    exact matches_pure past (by omega) (closes_empty maker)
  · simp only [closes, if_false]
    refine Matches.of_eq ?_ (first_item maker notBlank closes)
    refine Matches.loop (fun fuel => nextItem source fuel maker.closer (depth + 1)) (fun _ => True)
      (fun all q rest => (ofExpr q rest).inside (.items maker all.reverse)) ?_ stands trivial
    intro done q rest fewer stands _
    refine (matches_nextItem known maker done (by omega) stands).imp ?_
    rintro (all | all) more - turned
    · exact lt_of_lt_of_le turned (by omega)
    · exact turned

/-- Behind a name, a call may open. -/
theorem matches_named {n : Nat} (known : ExprsMatch source n) (f : Builtin)
    (short : after.length < n) (stands : Stands source p after) :
    Matches source depth (ofFocus (.name f) p after)
      (fun fuel => do
        skipBlanks source fuel
        if (← peek source) = some '(' then do
          let _ ← bump source
          let args ← items source fuel ')' (depth + 1)
          ofExcept (call f args)
        else pure (.builtin f))
      p after (fun _ rest => rest.length ≤ after.length) (fun v => ofFocus (.term v)) := by
  refine Matches.behind_blanks (ofFocus (.name f)) stands
    (ofFocus_blanks (fun _ => by simp)) ?_
  intro q rest stands suffix notBlank _
  have not_longer := suffix.length_le
  refine Matches.behind_peek stands ?_
  by_cases called : rest.head? = some '('
  · obtain ⟨rest, rfl⟩ := List.head?_eq_some_iff.mp called
    simp only [called, if_true]
    simp only [List.length_cons] at not_longer
    refine Matches.behind_bump stands (fun past => ?_)
    refine Matches.of_eq ?_ (name_called f)
    refine (matches_items known (.call f) (by omega) past).bind ?_
    intro args q rest stands _ fewer
    rw [call_eq]
    refine Matches.imp (matches_outcome (fun v => ofFocus (.term v)) stands) ?_
    rintro v more - rfl
    omega
  · simp only [called, if_false]
    exact matches_pure stands not_longer (name_not_called f notBlank called)

/-- A name, call or list. -/
theorem matches_primary (depth : Nat) (known : ExprsMatch source after.length)
    (stands : Stands source p after) :
    Matches source depth (ofFocus .operand p after) (fun fuel => primary source fuel depth) p after
      (fun _ rest => rest.length < after.length) (fun v => ofFocus (.term v)) := by
  refine Meets.succ ?_
  simp only [primary]
  refine Matches.behind_blanks (ofFocus .operand) stands
    (ofFocus_blanks (fun _ => by simp)) ?_
  intro q rest stands suffix notBlank _
  have not_longer := suffix.length_le
  refine Matches.behind_peek stands ?_
  cases rest with
  | nil => exact matches_malformed stands operand_ends
  | cons c rest =>
    simp only [List.length_cons] at not_longer
    by_cases list : c = '['
    · subst list
      simp only [List.head?_cons, if_true]
      refine Matches.behind_bump stands (fun past => ?_)
      refine (Matches.bind (matches_items known .list (by omega) past) ?_).of_eq list_opens
      intro all q' rest' stands' _ fewer
      exact matches_pure stands' (by omega) rfl
    · by_cases starts : startsName c = true
      · simp only [List.head?_cons, list, starts, if_true, if_false]
        refine Matches.of_eq ?_ (name_begins starts)
        refine (meets_name stands).bind ?_
        rintro word q more stands - ⟨rfl, rfl, rfl⟩
        cases Builtin.ofName? (String.ofList ((c :: rest).takeWhile continuesName)) with
        | none => exact matches_problem stands rfl
        | some f =>
          -- the name has at least the letter that it begins with
          have continues := continues_of_starts starts
          rw [List.dropWhile_cons_of_pos continues] at stands ⊢
          have fewer := (List.dropWhile_suffix (l := rest) continuesName).length_le
          refine (matches_named known f (by omega) stands).imp ?_
          intro v more _ not_more
          omega
      · simp only [List.head?_cons, list, starts, if_false]
        exact matches_malformed stands
          (operand_unexpected (notBlank c rfl) list (by simpa using starts))

/-- A turn of the loop over the subscripts of a term. -/
theorem matches_nextIndex (depth : Nat) (known : ExprsMatch source after.length) (base : Value)
    (stands : Stands source p after) :
    Matches source depth (ofFocus (.term base) p after)
      (fun fuel => nextIndex source fuel depth base) p after
      (Turned (fun _ => True) EndsTerm after.length)
      (turnTarget (fun v => ofFocus (.term v)) (fun v => ofFocus (.term v))) := by
  refine Meets.succ ?_
  simp only [nextIndex]
  refine Matches.behind_blanks (ofFocus (.term base)) stands
    (ofFocus_blanks (fun _ => by simp)) ?_
  intro q rest stands suffix notBlank _
  have not_longer := suffix.length_le
  refine Matches.behind_peek stands ?_
  by_cases opens : rest.head? = some '['
  · obtain ⟨rest, rfl⟩ := List.head?_eq_some_iff.mp opens
    simp only [opens, if_true]
    simp only [List.length_cons] at not_longer
    refine Matches.behind_bump stands (fun past => ?_)
    refine Matches.of_eq ?_ (index_opens base)
    refine ((known (by omega) past).inside (.index base)).bind ?_
    rintro v q rest stands - ⟨fewer, ends, -⟩
    refine (matches_expect stands ends).bind ?_
    intro _ q rest stands _ fewer'
    rw [pick_eq]
    refine (matches_outcome (fun w => ofFocus (.term w)) stands).bind ?_
    rintro w q _ past - rfl
    exact matches_pure past ⟨trivial, by omega⟩ rfl
  · simp only [opens, if_false]
    refine matches_pure stands ?_ rfl
    intro c first
    exact ⟨notBlank c first, fun bracket => opens (by rw [first, bracket])⟩

/-- A term. -/
theorem matches_term (depth : Nat) (known : ExprsMatch source after.length)
    (stands : Stands source p after) :
    Matches source depth (ofFocus .operand p after) (fun fuel => term source fuel depth) p after
      (fun _ rest => rest.length < after.length ∧ EndsTerm rest) (fun v => ofFocus (.term v)) := by
  refine Meets.succ ?_
  simp only [term]
  refine (matches_primary depth known stands).bind ?_
  intro base q rest stands _ fewer
  have turns : ∀ v q more, more.length ≤ rest.length → Stands source q more → True →
      Matches source depth (ofFocus (.term v) q more) (fun fuel => nextIndex source fuel depth v)
        q more (Turned (fun _ => True) EndsTerm more.length)
        (turnTarget (fun v => ofFocus (.term v)) (fun v => ofFocus (.term v))) :=
    fun v q more not_longer stands _ =>
      matches_nextIndex depth (known.mono (by omega)) v stands
  refine (Matches.loop _ _ _ turns stands trivial).imp ?_
  intro v more suffix ends
  exact ⟨lt_of_le_of_lt suffix.length_le fewer, ends⟩

/-- A turn of the loop over the terms of a sum. -/
theorem matches_nextTerm (depth : Nat) (known : ExprsMatch source after.length) (sum : Value)
    (stands : Stands source p after) :
    Matches source depth (ofSum sum p after) (fun fuel => nextTerm source fuel depth sum) p after
      (Turned EndsTerm (fun rest => EndsTerm after → EndsSum rest) after.length)
      (turnTarget ofSum ofSum) := by
  refine Meets.succ ?_
  simp only [nextTerm]
  refine Matches.behind_blanks (ofSum sum) stands (skips_blanks_ofSum sum) ?_
  intro q rest stands suffix notBlank endsTerm
  have not_longer := suffix.length_le
  refine Matches.behind_peek stands ?_
  by_cases plus : rest.head? = some '+'
  · obtain ⟨rest, rfl⟩ := List.head?_eq_some_iff.mp plus
    simp only [plus, if_true]
    simp only [List.length_cons] at not_longer
    refine Matches.behind_bump stands (fun past => ?_)
    refine Matches.of_eq ?_ (plus_follows sum)
    refine ((matches_term depth (known.mono (by omega)) past).beside (some sum)).bind ?_
    rintro v q rest stands - ⟨fewer, ends⟩
    refine Matches.of_eq ?_ (term_added v sum ends)
    refine (matches_outcome ofSum stands).bind ?_
    rintro w q _ past - rfl
    exact matches_pure past ⟨ends, by omega⟩ rfl
  · -- a subscript cannot follow here, but only because a term has ended in front of the blanks
    simp only [plus, if_false]
    refine matches_pure stands ?_ rfl
    intro ends c first
    refine ⟨notBlank c first, (endsTerm ends c first).2, ?_⟩
    rintro rfl
    exact plus first

/-- An expression, if it is known what expressions that stand further on come to. -/
theorem exprMatches_of (depth : Nat) (known : ExprsMatch source after.length)
    (stands : Stands source p after) :
    ExprMatches source depth p after := by
  refine Meets.succ ?_
  simp only [expr]
  by_cases deep : deepestLevel < depth
  · simp only [deep, if_true]
    refine meets_malformed stands ?_
    rintro frames left rfl
    exact ofExpr_tooDeep deep left
  · simp only [deep, if_false]
    have begins : Agree depth (ofExpr p after) ((ofFocus .operand p after).beside none) := by
      rintro frames left rfl
      exact expr_begins (by omega) left
    refine Matches.of_agree ?_ begins
    refine ((matches_term depth known stands).beside none).bind ?_
    rintro v q rest stands - ⟨fewer, ends⟩
    have turns : ∀ sum q more, more.length ≤ rest.length → Stands source q more → EndsTerm more →
        Matches source depth (ofSum sum q more) (fun fuel => nextTerm source fuel depth sum) q more
          (Turned EndsTerm EndsSum more.length) (turnTarget ofSum ofSum) := by
      intro sum q more not_longer stands ends
      refine (matches_nextTerm depth (known.mono (by omega)) sum stands).imp ?_
      rintro (w | w) rest - turned
      · exact turned ends
      · exact turned
    refine (Matches.loop _ _ _ turns stands ends).imp ?_
    intro w more suffix endsSum
    exact ⟨lt_of_le_of_lt suffix.length_le fewer, endsSum, by omega⟩

/-- An expression comes to what the machine comes to: by induction on the characters that are left,
of which each rule takes some before an expression begins inside of a bracket. -/
theorem matches_expr (depth : Nat) (stands : Stands source p after) :
    ExprMatches source depth p after := by
  induction length : after.length using Nat.strong_induction_on generalizing depth p after with
  | _ n ih =>
    subst length
    exact exprMatches_of depth (fun fewer stands => ih _ fewer _ stands rfl) stands

/-- Rules for expressions match the machine in front of any number of characters. -/
theorem exprsMatch (source : String) (n : Nat) : ExprsMatch source n :=
  fun _ stands => matches_expr _ stands

/-- The rule for a source comes to the outcome of the source. -/
theorem matches_evaluate (source : String) :
    Matches source 0 (ofExpr 0 source.toList) (Descent.evaluate source) 0 source.toList
      (fun _ _ => True) (fun v _ _ _ _ => .ok v) := by
  refine (matches_expr 0 (stands_start source)).bind ?_
  rintro v q rest stands - ⟨-, ends, -⟩
  refine Matches.behind_no_blanks stands ends.endsTerm ?_
  refine (meets_get stands).bind ?_
  rintro _ q rest stands - ⟨rfl, rfl, rfl⟩
  have goes_on := stands.lt_size
  cases rest with
  | nil =>
    simp only [goes_on, ne_eq, not_true_eq_false, if_false]
    refine meets_pure stands ⟨trivial, ?_⟩
    intro frames left outside
    rw [List.eq_nil_of_length_eq_zero outside]
    exact source_ends v
  | cons c rest =>
    simp only [goes_on, ne_eq, List.cons_ne_nil, not_false_eq_true, if_true]
    refine meets_malformed stands ?_
    intro frames left outside
    rw [List.eq_nil_of_length_eq_zero outside]
    exact source_goes_on v ends

/-- So descent comes to an end on every source, with the outcome of the source. -/
theorem evaluate_ends (source : String) :
    ∃ q, Ends (Descent.evaluate source) 0 (ofOutcome (Lipogram.evaluate source)) q ∧
      IsBoundary source q := by
  obtain ⟨result, q, rest, ends, stands, -, good⟩ := matches_evaluate source
  have outcome : Lipogram.evaluate source = ofExpr 0 source.toList [] none := rfl
  refine ⟨q, ?_, stands.isBoundary⟩
  obtain ⟨v, rfl, -, agree⟩ | ⟨cause, rfl, agree⟩ := good.split
  · rw [outcome, agree [] none rfl]
    exact ends
  · rw [outcome, agree [] none rfl]
    exact ends

end

end Lipogram.Descent
