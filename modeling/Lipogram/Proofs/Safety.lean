import Lipogram.Proofs.Descending

/-!
# Safety of the rules

From a position at the edge of a character, no rule takes a part of the source or of a value that is
not there, with whatever fuel, and where it stops is the edge of a character again (`Safe`). Rules
that follow each other and loops keep to that, so all rules do, by induction on the fuel
(`rulesSafe`). The parts of values that are taken are the ones that are meant.
-/

set_option autoImplicit false

namespace Lipogram.Descent

/-- A rule that begins at a position commits no fault, and stops, if it does, at the edge of a
character, not in front of that position and not past the end of the source. -/
def SafeAt {α : Type} (source : String) (rule : Rule α) (position : Nat) : Prop :=
  ∀ result stop, rule.runAt position = some (result, stop) →
    result ≠ .error .fault ∧ IsBoundary source stop ∧ position ≤ stop ∧
      stop ≤ source.utf8ByteSize

/-- A rule that is safe wherever it begins at the edge of a character. -/
def Safe {α : Type} (source : String) (rule : Rule α) : Prop :=
  ∀ position, IsBoundary source position → SafeAt source rule position

section

variable {α β σ : Type} {source : String} {rule : Rule α} {next : α → Rule β} {p : Nat}

/-- A chain is safe at a position if its first rule is, and the next one wherever that leads. -/
theorem SafeAt.bind (safe : SafeAt source rule p)
    (goes_on : ∀ a q, IsBoundary source q → p ≤ q → SafeAt source (next a) q) :
    SafeAt source (rule >>= next) p := by
  intro result stop run
  rw [Rule.runAt_bind] at run
  cases first : rule.runAt p with
  | none =>
    rw [first] at run
    simp at run
  | some outcome =>
    obtain ⟨x, q⟩ := outcome
    rw [first, Option.bind_some] at run
    obtain ⟨no_fault, boundary, le, inside⟩ := safe x q first
    cases x with
    | ok a =>
      obtain ⟨no_fault', boundary', le', inside'⟩ := goes_on a q boundary le result stop run
      exact ⟨no_fault', boundary', by omega, inside'⟩
    | error cause =>
      obtain ⟨rfl, rfl⟩ := Prod.mk.inj (Option.some.inj run)
      refine ⟨?_, boundary, le, inside⟩
      intro fault
      exact no_fault (congrArg Except.error (Except.error.inj fault))

/-- A chain of safe rules is safe. -/
theorem Safe.bind (safe : Safe source rule) (goes_on : ∀ a, Safe source (next a)) :
    Safe source (rule >>= next) :=
  fun p boundary => (safe p boundary).bind (fun a q boundary' _ => goes_on a q boundary')

/-- A rule that takes no step. -/
theorem safeAt_of_result {x : Except Stop α} (boundary : IsBoundary source p)
    (run : rule.runAt p = some (x, p)) (no_fault : x ≠ .error .fault) : SafeAt source rule p := by
  intro result stop run'
  rw [run] at run'
  obtain ⟨rfl, rfl⟩ := Prod.mk.inj (Option.some.inj run')
  exact ⟨no_fault, boundary, le_rfl, boundary.le_size⟩

/-- Asking for the position is safe. -/
theorem SafeAt.behind_get {next : Nat → Rule β} (goes_on : SafeAt source (next p) p) :
    SafeAt source (get >>= next) p :=
  fun result stop run => goes_on result stop run

/-- A rule that only gives a value is safe. -/
theorem safe_pure (a : α) : Safe source (pure a : Rule α) :=
  fun _ boundary => safeAt_of_result (x := .ok a) boundary rfl (by simp)

/-- A rule that only gives an outcome is safe if this is no fault. -/
theorem safe_of_except {x : Except Stop α} (no_fault : x ≠ .error .fault) :
    Safe source (ofExcept x : Rule α) := by
  intro p boundary
  refine safeAt_of_result boundary ?_ no_fault
  cases x <;> rfl

/-- A rule that only stops at a problem is safe. -/
theorem safe_problem (cause : Problem) : Safe source (throw (.problem cause) : Rule α) :=
  fun _ boundary => safeAt_of_result (x := .error (.problem cause)) boundary rfl (by simp)

/-- A malformation is safe. -/
theorem safe_malformed (fault : Malformation) : Safe source (malformed fault : Rule α) :=
  fun p boundary =>
    safeAt_of_result (x := .error (.problem (.malformed p fault))) boundary rfl (by simp)

/-- A rule without fuel stops nowhere. -/
theorem safe_of_no_fuel (none_left : rule = exhausted) : Safe source rule := by
  intro p boundary result stop run
  have no_outcome : rule.runAt p = none := by rw [none_left]; rfl
  rw [no_outcome] at run
  simp at run

/-- A loop of safe turns is safe. -/
theorem safe_loop {turn : σ → Rule (ForInStep σ)} (turns : ∀ s, Safe source (turn s)) (fuel : Nat)
    (s : σ) : Safe source (loop turn fuel s) := by
  induction fuel generalizing s with
  | zero => exact safe_of_no_fuel rfl
  | succ fuel ih =>
    refine (turns s).bind ?_
    rintro (t | t)
    · exact safe_pure t
    · exact ih t

end

/-! ## Parts of values -/

/-- The outcome of an operation is no fault. -/
theorem outcome_no_fault {α : Type} (x : Except Problem α) : ofOutcome x ≠ .error .fault := by
  cases x <;> simp [ofOutcome, Except.mapError]

/-- A subscript takes no item that is not there. -/
theorem pick_no_fault (base index : Value) : pick base index ≠ .error .fault := by
  rw [pick_eq]
  exact outcome_no_fault _

/-- A call takes no argument that is not there. -/
theorem call_no_fault (f : Builtin) (args : List Value) : call f args ≠ .error .fault := by
  rw [call_eq]
  exact outcome_no_fault _

/-! ## Parts of the source -/

section

variable (source : String)

/-- Looking at the next character is safe. -/
theorem safe_peek : Safe source (peek source) := by
  intro p boundary
  obtain ⟨rest, stands⟩ := exists_stands boundary
  exact safeAt_of_result boundary stands.runAt_peek (by simp)

/-- Taking the next character is safe. -/
theorem safe_bump : Safe source (bump source) := by
  intro p boundary
  obtain ⟨rest, stands⟩ := exists_stands boundary
  cases rest with
  | nil => exact safeAt_of_result boundary stands.runAt_bump_end (by simp)
  | cons c rest =>
    intro result stop run
    rw [stands.runAt_bump] at run
    obtain ⟨rfl, rfl⟩ := Prod.mk.inj (Option.some.inj run)
    have past := stands.next.isBoundary
    exact ⟨by simp, past, Nat.le_add_right _ _, past.le_size⟩

/-- Passing characters is safe. -/
theorem safe_skipWhile (among : Char → Bool) (fuel : Nat) :
    Safe source (skipWhile source among fuel) := by
  refine safe_loop ?_ fuel ()
  intro _
  refine (safe_peek source).bind ?_
  intro next
  split_ifs
  · exact (safe_bump source).bind (fun _ => safe_pure _)
  · exact safe_pure _

/-- The slice that is a name lies between two positions at edges of characters, the second one not
in front of the first. -/
theorem safe_name (fuel : Nat) : Safe source (name source fuel) := by
  -- the start of the slice is a position of the past, so the rules for binding do not reach it
  intro start boundary
  refine SafeAt.behind_get ?_
  refine (safe_skipWhile source continuesName fuel start boundary).bind ?_
  intro _ stop boundary' le
  refine SafeAt.behind_get ?_
  refine safe_of_except ?_ stop boundary'
  rw [slice?, if_pos ⟨boundary, boundary', le⟩]
  simp [present]

/-- Expecting a bracket is safe. -/
theorem safe_expect (closer : Char) (fuel : Nat) : Safe source (expect source closer fuel) := by
  refine (safe_skipWhile source Text.isBlank fuel).bind ?_
  intro _
  refine (safe_bump source).bind ?_
  rintro (_ | c)
  · exact safe_malformed _
  · dsimp only
    split_ifs
    · exact safe_pure _
    · exact safe_malformed _

/-! ## Rules of the grammar -/

/-- The rules of the grammar are safe with an amount of fuel. -/
structure RulesSafe (fuel : Nat) : Prop where
  expr (depth : Nat) : Safe source (expr source fuel depth)
  nextTerm (depth : Nat) (sum : Value) : Safe source (nextTerm source fuel depth sum)
  term (depth : Nat) : Safe source (term source fuel depth)
  nextIndex (depth : Nat) (base : Value) : Safe source (nextIndex source fuel depth base)
  primary (depth : Nat) : Safe source (primary source fuel depth)
  items (closer : Char) (depth : Nat) : Safe source (items source fuel closer depth)
  nextItem (closer : Char) (depth : Nat) (done : List Value) :
    Safe source (nextItem source fuel closer depth done)

/-- Without fuel the rules are safe, since they do nothing. -/
theorem rulesSafe_zero : RulesSafe source 0 where
  expr _ := safe_of_no_fuel (by rw [Descent.expr])
  nextTerm _ _ := safe_of_no_fuel (by rw [Descent.nextTerm])
  term _ := safe_of_no_fuel (by rw [Descent.term])
  nextIndex _ _ := safe_of_no_fuel (by rw [Descent.nextIndex])
  primary _ := safe_of_no_fuel (by rw [Descent.primary])
  items _ _ := safe_of_no_fuel (by rw [Descent.items])
  nextItem _ _ _ := safe_of_no_fuel (by rw [Descent.nextItem])

variable {source}

/-- What one fuel more adds to the rules keeps them safe. -/
theorem RulesSafe.succ {fuel : Nat} (rules : RulesSafe source fuel) :
    RulesSafe source (fuel + 1) where
  expr depth := by
    unfold Descent.expr
    split_ifs
    · exact safe_malformed _
    · exact (rules.term depth).bind (fun first => safe_loop (rules.nextTerm depth) fuel first)
  nextTerm depth sum := by
    unfold Descent.nextTerm
    refine (safe_skipWhile source Text.isBlank fuel).bind (fun _ => ?_)
    refine (safe_peek source).bind (fun next => ?_)
    split_ifs
    · refine (safe_bump source).bind (fun _ => ?_)
      refine (rules.term depth).bind (fun v => ?_)
      exact (safe_of_except (outcome_no_fault _)).bind (fun _ => safe_pure _)
    · exact safe_pure _
  term depth := by
    unfold Descent.term
    exact (rules.primary depth).bind (fun base => safe_loop (rules.nextIndex depth) fuel base)
  nextIndex depth base := by
    unfold Descent.nextIndex
    refine (safe_skipWhile source Text.isBlank fuel).bind (fun _ => ?_)
    refine (safe_peek source).bind (fun next => ?_)
    split_ifs
    · refine (safe_bump source).bind (fun _ => ?_)
      refine (rules.expr (depth + 1)).bind (fun index => ?_)
      refine (safe_expect source ']' fuel).bind (fun _ => ?_)
      exact (safe_of_except (pick_no_fault base index)).bind (fun _ => safe_pure _)
    · exact safe_pure _
  primary depth := by
    unfold Descent.primary
    refine (safe_skipWhile source Text.isBlank fuel).bind (fun _ => ?_)
    refine (safe_peek source).bind ?_
    rintro (_ | c)
    · exact safe_malformed _
    · dsimp only
      split_ifs
      · refine (safe_bump source).bind (fun _ => ?_)
        exact (rules.items ']' (depth + 1)).bind (fun _ => safe_pure _)
      · refine (safe_name source fuel).bind (fun word => ?_)
        cases Builtin.ofName? word with
        | none => exact safe_problem _
        | some f =>
          refine (safe_skipWhile source Text.isBlank fuel).bind (fun _ => ?_)
          refine (safe_peek source).bind (fun next => ?_)
          split_ifs
          · refine (safe_bump source).bind (fun _ => ?_)
            refine (rules.items ')' (depth + 1)).bind (fun args => ?_)
            exact safe_of_except (call_no_fault f args)
          · exact safe_pure _
      · exact safe_malformed _
  items closer depth := by
    unfold Descent.items
    refine (safe_skipWhile source Text.isBlank fuel).bind (fun _ => ?_)
    refine (safe_peek source).bind (fun next => ?_)
    split_ifs
    · exact (safe_bump source).bind (fun _ => safe_pure _)
    · exact safe_loop (rules.nextItem closer depth) fuel []
  nextItem closer depth done := by
    unfold Descent.nextItem
    refine (rules.expr depth).bind (fun v => ?_)
    refine (safe_skipWhile source Text.isBlank fuel).bind (fun _ => ?_)
    refine (safe_bump source).bind ?_
    rintro (_ | c)
    · exact safe_malformed _
    · dsimp only
      split_ifs
      · exact safe_pure _
      · exact safe_pure _
      · exact safe_malformed _

/-- By induction on the fuel, for all rules at once. -/
theorem rulesSafe (source : String) (fuel : Nat) : RulesSafe source fuel := by
  induction fuel with
  | zero => exact rulesSafe_zero source
  | succ fuel ih => exact ih.succ

/-- The rule for a whole source is safe. -/
theorem safe_evaluate (source : String) (fuel : Nat) :
    Safe source (Descent.evaluate source fuel) := by
  refine ((rulesSafe source fuel).expr 0).bind (fun v => ?_)
  refine (safe_skipWhile source Text.isBlank fuel).bind (fun _ => ?_)
  intro p boundary
  refine SafeAt.behind_get ?_
  split_ifs
  · exact safe_malformed _ p boundary
  · exact safe_pure v p boundary

end

/-- Descent is safe with an amount of fuel, in all of its rules. -/
structure DescentSafe (source : String) (fuel : Nat) : Prop extends RulesSafe source fuel where
  peek : Safe source (peek source)
  bump : Safe source (bump source)
  skipBlanks : Safe source (skipBlanks source fuel)
  expect (closer : Char) : Safe source (expect source closer fuel)
  name : Safe source (name source fuel)
  evaluate : Safe source (Descent.evaluate source fuel)

/-- Subscripts and calls take the parts of values that are there: a subscript the one where its
index points, which is the item that is removed from a list. -/
structure PartsPresent : Prop where
  pick (base index : Value) : pick base index ≠ .error .fault
  call (f : Builtin) (args : List Value) : call f args ≠ .error .fault
  character {s : String} {index : Value} {n : Int} {i : Nat} (integer : index.toInt = .ok n)
    (resolved : place n s.toList.length = .ok i) :
    ∃ inside : i < s.toList.length,
      Descent.pick (.str s) index = .ok (.str s.toList[i].toString)
  item {items : List Value} {index : Value} {n : Int} {i : Nat} (integer : index.toInt = .ok n)
    (resolved : place n items.length = .ok i) :
    ∃ inside : i < items.length,
      (∃ others, swapRemove? items i = some (items[i], others)) ∧
        Descent.pick (.list items) index = .ok items[i]

/-- The parts of values that rules take are there. -/
theorem partsPresent : PartsPresent where
  pick := pick_no_fault
  call := call_no_fault
  character := pick_text
  item := by
    intro items index n i integer resolved
    obtain ⟨inside, picked⟩ := pick_list integer resolved
    exact ⟨inside, swapRemove_eq inside, picked⟩

/-- No fault can be reached: with whatever fuel, no rule that begins at the edge of a character
takes a part of the source that is not there, and it leaves the position at the edge of a character,
not past the end; no subscript or call takes a part of a value that is not there. And with enough
fuel the whole of a source is evaluated so. -/
theorem no_fault_reachable (source : String) :
    (∀ fuel, DescentSafe source fuel) ∧ PartsPresent ∧ IsBoundary source 0 ∧
      ∃ stop, Ends (Descent.evaluate source) 0 (ofOutcome (Lipogram.evaluate source)) stop ∧
        IsBoundary source stop := by
  refine ⟨?_, partsPresent, (stands_start source).isBoundary, evaluate_ends source⟩
  intro fuel
  exact {
    toRulesSafe := rulesSafe source fuel
    peek := safe_peek source
    bump := safe_bump source
    skipBlanks := safe_skipWhile source Text.isBlank fuel
    expect := fun closer => safe_expect source closer fuel
    name := safe_name source fuel
    evaluate := safe_evaluate source fuel }

end Lipogram.Descent
