import Lipogram.Proofs.Progress

/-!
# Depths

The depth of an expression only limits. A rule of the grammar at some depth either finds the nesting
too deep or comes to what it comes to at every lesser depth, from the same position and to the same
one (`RulesKeep`); and the fuel that was enough is enough, and more does no harm. So an expression
means the same wherever it may stand at all (`depth_only_limits`).
-/

set_option autoImplicit false

/-! ## Levels of the machine -/

namespace Lipogram.Reader

variable {base base' : Nat}

/-- A machine has found the nesting too deep. -/
def Status.TooDeep (status : Status) : Prop :=
  ∃ offset, status = .failed offset (.malformed offset .nestedTooDeeply)

/-- A machine that has found the nesting too deep reads no further. -/
theorem Status.TooDeep.stopped {status : Status} (deep : status.TooDeep) : status.Stopped := by
  obtain ⟨offset, rfl⟩ := deep
  trivial

/-- The first machine has found the nesting too deep, or the second one is in the same status. -/
def Status.Keeps (limited free : Status) : Prop :=
  limited.TooDeep ∨ free = limited

/-- What is too deep at a level is too deep at each level below. -/
theorem State.isDeepest_mono (le : base' ≤ base) {s : State} (shallow : s.isDeepest base = false) :
    s.isDeepest base' = false := by
  simp only [isDeepest, decide_eq_false_iff_not] at shallow ⊢
  omega

/-- A subscript opens as it does at each level above, unless it stands too deep. -/
theorem State.openIndex_level (le : base' ≤ base) (s : State) (v : Value) :
    (s.openIndex base v).Keeps (s.openIndex base' v) := by
  unfold openIndex
  cases shallow : s.isDeepest base with
  | true => exact .inl ⟨s.offset, by simp⟩
  | false => exact .inr (by simp [State.isDeepest_mono le shallow])

/-- So it is with a character behind an opening bracket. -/
theorem State.readOpened_level (le : base' ≤ base) (s : State) (maker : Maker) (c : Char) :
    (s.readOpened base maker c).Keeps (s.readOpened base' maker c) := by
  unfold readOpened
  split_ifs with _ _ shallow above above
  · exact .inr rfl
  · exact .inr rfl
  · exact .inl ⟨s.offset, rfl⟩
  · exact .inl ⟨s.offset, rfl⟩
  · rw [State.isDeepest_mono le (by simpa using shallow)] at above
    simp at above
  · exact .inr rfl

/-- So it is with a character behind a term. -/
theorem State.readAfterTerm_level (le : base' ≤ base) (s : State) (v : Value) (c : Char) :
    (s.readAfterTerm base v c).Keeps (s.readAfterTerm base' v c) := by
  unfold readAfterTerm
  split_ifs
  · exact .inr rfl
  · exact State.openIndex_level le _ v
  · exact .inr rfl
  · exact .inr rfl

/-- So it is with a character behind a name. -/
theorem State.readAfterName_level (le : base' ≤ base) (s : State) (f : Builtin) (c : Char) :
    (s.readAfterName base f c).Keeps (s.readAfterName base' f c) := by
  unfold readAfterName
  split_ifs
  · exact .inr rfl
  · exact .inr rfl
  · exact State.readAfterTerm_level le s (.builtin f) c

/-- A step at a level finds the nesting too deep, or is the step at each level above. -/
theorem Status.read_level (le : base' ≤ base) (status : Status) (c : Char) :
    (status.read base c).Keeps (status.read base' c) := by
  cases status with
  | ended => exact .inr rfl
  | failed => exact .inr rfl
  | reading s =>
    show (s.read base c).Keeps (s.read base' c)
    unfold State.read
    cases s.focus with
    | operand => exact .inr rfl
    | opened maker => exact State.readOpened_level le s maker c
    | word letters =>
      show (s.readInWord base letters c).Keeps (s.readInWord base' letters c)
      unfold State.readInWord
      split
      · exact .inr rfl
      · cases State.named letters with
        | ok f => exact State.readAfterName_level le s f c
        | error problem => exact .inr rfl
    | name f => exact State.readAfterName_level le s f c
    | term v => exact State.readAfterTerm_level le s v c

/-- A run at a level finds the nesting too deep, or is the run at each level above. -/
theorem read_level (le : base' ≤ base) (status : Status) (cs : List Char) :
    (read base status cs).Keeps (read base' status cs) := by
  induction cs generalizing status with
  | nil => exact .inr rfl
  | cons c cs ih =>
    show (read base (status.read base c) cs).Keeps (read base' (status.read base' c) cs)
    obtain deep | same := status.read_level le c
    · rw [read_of_stopped deep.stopped]
      exact .inl deep
    · rw [same]
      exact ih _

/-- When the source ends, a level either finds the nesting too deep or has the outcome of each level
above. -/
theorem Status.finish_level (le : base' ≤ base) (status : Status) :
    (∃ place, status.finish base = .error (.malformed place .nestedTooDeeply)) ∨
      status.finish base' = status.finish base := by
  cases status with
  | ended => exact .inr rfl
  | failed => exact .inr rfl
  | reading s =>
    show (∃ place, s.finish base = .error (.malformed place .nestedTooDeeply)) ∨
      s.finish base' = s.finish base
    unfold State.finish
    cases s.focus with
    | opened maker =>
      cases shallow : s.isDeepest base with
      | true => exact .inl ⟨s.offset, rfl⟩
      | false => exact .inr (by simp [State.isDeepest_mono le shallow])
    | operand => exact .inr rfl
    | word letters => exact .inr rfl
    | name f => exact .inr rfl
    | term v => exact .inr rfl

/-- The machine before an expression at some level either finds the nesting too deep, or reads on as
it does before an expression at each level above, and has the same outcome when the source ends. -/
theorem read_start_level (le : base' ≤ base) (offset : Nat) (cs : List Char) :
    (∃ place, (read base (.start base offset) cs).finish base =
        .error (.malformed place .nestedTooDeeply)) ∨
      read base' (.start base' offset) cs = read base (.start base offset) cs ∧
        (read base' (.start base' offset) cs).finish base' =
          (read base (.start base offset) cs).finish base := by
  have starts : (Status.start base offset).Keeps (.start base' offset) := by
    unfold Status.start
    split_ifs
    · exact .inr rfl
    · exact .inl ⟨offset, rfl⟩
    · omega
    · exact .inr rfl
  have reads : (read base (.start base offset) cs).Keeps (read base' (.start base' offset) cs) := by
    obtain deep | same := starts
    · rw [read_of_stopped deep.stopped]
      exact .inl deep
    · rw [same]
      exact read_level le _ cs
  obtain ⟨place, deep⟩ | same := reads
  · rw [deep]
    exact .inl ⟨place, rfl⟩
  · rw [same]
    exact (Status.finish_level le _).imp_right (fun ends => ⟨rfl, ends⟩)

end Lipogram.Reader

/-! ## Depths of the rules -/

namespace Lipogram.Descent

/-- A result other than that the nesting is too deep. -/
def InReach {α : Type} (result : Except Stop α) : Prop :=
  ∀ place, result ≠ .error (.problem (.malformed place .nestedTooDeeply))

/-- Wherever the first rule ends, and does not find the nesting too deep, the second one ends at the
same position with the same result. -/
def Keeps {α : Type} (limited free : Rule α) : Prop :=
  ∀ position result stop, limited.runAt position = some (result, stop) → InReach result →
    free.runAt position = some (result, stop)

section

variable {α β σ : Type} {limited free : Rule α} {next next' : α → Rule β}

/-- A rule keeps its own outcomes. -/
theorem keeps_refl (rule : Rule α) : Keeps rule rule :=
  fun _ _ _ run _ => run

/-- A rule without fuel ends nowhere. -/
theorem keeps_of_no_fuel (none_left : limited = exhausted) : Keeps limited free := by
  intro p result stop run
  have no_outcome : limited.runAt p = none := by rw [none_left]; rfl
  rw [no_outcome] at run
  simp at run

/-- Where the nesting is too deep there is nothing to keep. -/
theorem keeps_nestedTooDeeply : Keeps (malformed .nestedTooDeeply) free := by
  intro p result stop run reach
  obtain ⟨rfl, rfl⟩ := Prod.mk.inj (Option.some.inj run)
  exact absurd rfl (reach p)

/-- A chain of rules keeps its outcomes if both links do. -/
theorem Keeps.bind (keeps : Keeps limited free) (goes_on : ∀ a, Keeps (next a) (next' a)) :
    Keeps (limited >>= next) (free >>= next') := by
  intro p result stop run reach
  rw [Rule.runAt_bind] at run
  cases first : limited.runAt p with
  | none =>
    rw [first] at run
    simp at run
  | some outcome =>
    obtain ⟨x, q⟩ := outcome
    rw [first, Option.bind_some] at run
    cases x with
    | ok a =>
      rw [Rule.runAt_bind_ok (keeps p (.ok a) q first (by simp [InReach]))]
      exact goes_on a q result stop run reach
    | error cause =>
      obtain ⟨rfl, rfl⟩ := Prod.mk.inj (Option.some.inj run)
      have reached : InReach (.error cause : Except Stop α) := by
        intro place deep
        exact reach place (congrArg Except.error (Except.error.inj deep))
      exact Rule.runAt_bind_error (keeps p (.error cause) q first reached)

/-- Turns that keep their outcomes make a loop that keeps its own, also if it may turn more
often. -/
theorem Keeps.loop {turn turn' : σ → Rule (ForInStep σ)} (turns : ∀ s, Keeps (turn s) (turn' s))
    {fuel more : Nat} (le : fuel ≤ more) (s : σ) :
    Keeps (Descent.loop turn fuel s) (Descent.loop turn' more s) := by
  induction fuel generalizing more s with
  | zero => exact keeps_of_no_fuel rfl
  | succ fuel ih =>
    obtain ⟨more, rfl⟩ := Nat.exists_eq_add_of_le' (Nat.le_of_add_left_le le)
    refine (turns s).bind ?_
    rintro (t | t)
    · exact keeps_refl _
    · exact ih (by omega) t

end

/-! ## Rules of the grammar -/

section

variable {source : String} {fuel more : Nat}

/-- Passing characters keeps its outcome with more fuel. -/
theorem keeps_skipWhile (le : fuel ≤ more) (among : Char → Bool) :
    Keeps (skipWhile source among fuel) (skipWhile source among more) :=
  Keeps.loop (fun _ => keeps_refl _) le ()

/-- Reading a name keeps its outcome with more fuel. -/
theorem keeps_name (le : fuel ≤ more) : Keeps (name source fuel) (name source more) := by
  refine (keeps_refl _).bind (fun _ => ?_)
  exact (keeps_skipWhile le continuesName).bind (fun _ => keeps_refl _)

/-- Expecting a bracket keeps its outcome with more fuel. -/
theorem keeps_expect (le : fuel ≤ more) (closer : Char) :
    Keeps (expect source closer fuel) (expect source closer more) :=
  (keeps_skipWhile le Text.isBlank).bind (fun _ => keeps_refl _)

/-- The rules of the grammar keep their outcomes at lesser depths and with more fuel, unless they
find the nesting too deep. -/
structure RulesKeep (source : String) (fuel more : Nat) : Prop where
  expr {depth depth' : Nat} (le : depth' ≤ depth) :
    Keeps (expr source fuel depth) (expr source more depth')
  nextTerm {depth depth' : Nat} (le : depth' ≤ depth) (sum : Value) :
    Keeps (nextTerm source fuel depth sum) (nextTerm source more depth' sum)
  term {depth depth' : Nat} (le : depth' ≤ depth) :
    Keeps (term source fuel depth) (term source more depth')
  nextIndex {depth depth' : Nat} (le : depth' ≤ depth) (base : Value) :
    Keeps (nextIndex source fuel depth base) (nextIndex source more depth' base)
  primary {depth depth' : Nat} (le : depth' ≤ depth) :
    Keeps (primary source fuel depth) (primary source more depth')
  items {depth depth' : Nat} (le : depth' ≤ depth) (closer : Char) :
    Keeps (items source fuel closer depth) (items source more closer depth')
  nextItem {depth depth' : Nat} (le : depth' ≤ depth) (closer : Char) (done : List Value) :
    Keeps (nextItem source fuel closer depth done) (nextItem source more closer depth' done)

/-- Without fuel there is nothing to keep. -/
theorem rulesKeep_zero (source : String) (more : Nat) : RulesKeep source 0 more where
  expr _ := keeps_of_no_fuel (by rw [Descent.expr])
  nextTerm _ _ := keeps_of_no_fuel (by rw [Descent.nextTerm])
  term _ := keeps_of_no_fuel (by rw [Descent.term])
  nextIndex _ _ := keeps_of_no_fuel (by rw [Descent.nextIndex])
  primary _ := keeps_of_no_fuel (by rw [Descent.primary])
  items _ _ := keeps_of_no_fuel (by rw [Descent.items])
  nextItem _ _ _ := keeps_of_no_fuel (by rw [Descent.nextItem])

/-- With one fuel more on both sides the rules still keep their outcomes. -/
theorem RulesKeep.succ (rules : RulesKeep source fuel more) (le : fuel ≤ more) :
    RulesKeep source (fuel + 1) (more + 1) where
  expr {depth depth'} shallower := by
    -- the only rule that looks at the depth; the others pass it on
    unfold Descent.expr
    by_cases deep : Reader.deepestLevel < depth
    · rw [if_pos deep]
      exact keeps_nestedTooDeeply
    · have above : ¬Reader.deepestLevel < depth' := by omega
      rw [if_neg deep, if_neg above]
      refine (rules.term shallower).bind (fun first => ?_)
      exact Keeps.loop (rules.nextTerm shallower) le first
  nextTerm shallower sum := by
    unfold Descent.nextTerm
    refine (keeps_skipWhile le Text.isBlank).bind (fun _ => ?_)
    refine (keeps_refl _).bind (fun next => ?_)
    split_ifs
    · refine (keeps_refl _).bind (fun _ => ?_)
      exact (rules.term shallower).bind (fun _ => keeps_refl _)
    · exact keeps_refl _
  term shallower := by
    unfold Descent.term
    refine (rules.primary shallower).bind (fun base => ?_)
    exact Keeps.loop (rules.nextIndex shallower) le base
  nextIndex shallower base := by
    unfold Descent.nextIndex
    refine (keeps_skipWhile le Text.isBlank).bind (fun _ => ?_)
    refine (keeps_refl _).bind (fun next => ?_)
    split_ifs
    · refine (keeps_refl _).bind (fun _ => ?_)
      refine (rules.expr (Nat.succ_le_succ shallower)).bind (fun index => ?_)
      exact (keeps_expect le ']').bind (fun _ => keeps_refl _)
    · exact keeps_refl _
  primary shallower := by
    unfold Descent.primary
    refine (keeps_skipWhile le Text.isBlank).bind (fun _ => ?_)
    refine (keeps_refl _).bind ?_
    rintro (_ | c)
    · exact keeps_refl _
    · dsimp only
      split_ifs
      · refine (keeps_refl _).bind (fun _ => ?_)
        exact (rules.items (Nat.succ_le_succ shallower) ']').bind (fun _ => keeps_refl _)
      · refine (keeps_name le).bind (fun word => ?_)
        cases Builtin.ofName? word with
        | none => exact keeps_refl _
        | some f =>
          refine (keeps_skipWhile le Text.isBlank).bind (fun _ => ?_)
          refine (keeps_refl _).bind (fun next => ?_)
          split_ifs
          · refine (keeps_refl _).bind (fun _ => ?_)
            exact (rules.items (Nat.succ_le_succ shallower) ')').bind (fun _ => keeps_refl _)
          · exact keeps_refl _
      · exact keeps_refl _
  items shallower closer := by
    unfold Descent.items
    refine (keeps_skipWhile le Text.isBlank).bind (fun _ => ?_)
    refine (keeps_refl _).bind (fun next => ?_)
    split_ifs
    · exact keeps_refl _
    · exact Keeps.loop (rules.nextItem shallower closer) le []
  nextItem shallower closer done := by
    unfold Descent.nextItem
    refine (rules.expr shallower).bind (fun v => ?_)
    exact (keeps_skipWhile le Text.isBlank).bind (fun _ => keeps_refl _)

/-- By induction on the fuel, for all rules at once, since they call each other. -/
theorem rulesKeep (source : String) (le : fuel ≤ more) : RulesKeep source fuel more := by
  induction fuel generalizing more with
  | zero => exact rulesKeep_zero source more
  | succ fuel ih =>
    obtain ⟨more, rfl⟩ := Nat.exists_eq_add_of_le' (Nat.le_of_add_left_le le)
    have less : fuel ≤ more := Nat.le_of_succ_le_succ le
    exact (ih less).succ less

end

/-- The depth only limits. An expression that comes to an end at some depth, and not because the
nesting is too deep, comes to the same end at every lesser depth, with the same fuel or more; and
from every position at the edge of a character it does come to an end. So it is with the machine
too, in front of whatever characters. -/
theorem depth_only_limits (source : String) (position : Nat) {depth depth' : Nat}
    (shallower : depth' ≤ depth) :
    (∀ fuel result stop, (expr source fuel depth).runAt position = some (result, stop) →
      InReach result → ∀ more, fuel ≤ more →
        (expr source more depth').runAt position = some (result, stop)) ∧
    (IsBoundary source position → ∃ result stop, Ends (expr source · depth) position result stop ∧
      (InReach result → Ends (expr source · depth') position result stop)) ∧
    ∀ after,
      (∃ place, (Reader.read depth (.start depth position) after).finish depth =
        .error (.malformed place .nestedTooDeeply)) ∨
      Reader.read depth' (.start depth' position) after =
          Reader.read depth (.start depth position) after ∧
        (Reader.read depth' (.start depth' position) after).finish depth' =
          (Reader.read depth (.start depth position) after).finish depth := by
  have keeps : ∀ fuel result stop, (expr source fuel depth).runAt position = some (result, stop) →
      InReach result → ∀ more, fuel ≤ more →
        (expr source more depth').runAt position = some (result, stop) := by
    intro fuel result stop run reach more le
    exact (rulesKeep source le).expr shallower position result stop run reach
  refine ⟨keeps, fun boundary => ?_, Reader.read_start_level shallower position⟩
  obtain ⟨after, stands⟩ := exists_stands boundary
  obtain ⟨result, stop, ⟨enough, ends⟩, -⟩ := (progress_of_stands stands).expr depth
  refine ⟨result, stop, ⟨enough, ends⟩, fun reach => ?_⟩
  exact ⟨enough, keeps enough result stop (ends enough le_rfl) reach⟩

/-- An index that is no integer, behind a list that stands as deep as it may. -/
theorem depth_only_limits_index :
    0 ≤ 255 ∧
      (expr "é[[]][len]" 12 255).runAt 2 =
        some (.error (.problem (.clash (.notInteger "builtin_function_or_method"))), 11) ∧
      (∀ more, 12 ≤ more → (expr "é[[]][len]" more 0).runAt 2 =
        some (.error (.problem (.clash (.notInteger "builtin_function_or_method"))), 11)) ∧
      IsBoundary "é[[]][len]" 2 ∧
      ∃ result stop, Ends (expr "é[[]][len]" · 255) 2 result stop ∧
        (InReach result → Ends (expr "é[[]][len]" · 0) 2 result stop) := by
  have shallower : 0 ≤ 255 := by decide
  have run : (expr "é[[]][len]" 12 255).runAt 2 =
      some (.error (.problem (.clash (.notInteger "builtin_function_or_method"))), 11) := by
    -- values have no decidable equality, so they are printed; but there is none here
    have shown : ((expr "é[[]][len]" 12 255).runAt 2).map
        (fun outcome => (outcome.1.map Value.text, outcome.2)) =
        some (.error (.problem (.clash (.notInteger "builtin_function_or_method"))), 11) := by
      decide +kernel
    obtain ⟨⟨result, stop⟩, outcome, printed⟩ := Option.map_eq_some_iff.mp shown
    obtain ⟨failed, rfl⟩ := Prod.mk.inj printed
    rw [outcome]
    cases result with
    | ok v => simp [Except.map] at failed
    | error cause => rw [Except.error.inj failed]
  have boundary : IsBoundary "é[[]][len]" 2 := by decide
  obtain ⟨keeps, ends, -⟩ := depth_only_limits "é[[]][len]" 2 shallower
  exact ⟨shallower, run, keeps 12 _ 11 run (by simp [InReach]), boundary, ends boundary⟩

end Lipogram.Descent
