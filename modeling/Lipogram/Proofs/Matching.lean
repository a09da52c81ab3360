import Lipogram.Proofs.Prospects
import Lipogram.Proofs.Rules

/-!
# Rules and prospects

What the machine has in prospect where a rule begins, it still has in prospect where the rule ends,
with the value that the rule has met; and where the rule stops, the machine meets the same problem
(`Matches`). Rules that follow each other, steps and loops keep to that.
-/

set_option autoImplicit false

namespace Lipogram.Descent

open Reader (Prospect Maker Frame deepestLevel)
open Reader.Prospect

section

variable {α β σ : Type}

/-- Two prospects are the same inside of a number of brackets. Their number is all that a rule knows
of the brackets around it. -/
def Agree (depth : Nat) (a b : Prospect) : Prop :=
  ∀ frames left, frames.length = depth → a frames left = b frames left

/-- A rule inside of a number of brackets comes to an end, and to the value or the problem that the
machine comes to. -/
def Matches (source : String) (depth : Nat) (start : Prospect) (rule : Nat → Rule α) (p : Nat)
    (after : List Char) (Q : α → List Char → Prop) (target : α → Nat → List Char → Prospect) :
    Prop :=
  Meets source rule p after
    (fun a q rest => Q a rest ∧ Agree depth start (target a q rest))
    (fun cause => Agree depth start (.problem cause))

variable {source : String} {depth p : Nat} {after : List Char} {start start' : Prospect}
  {rule : Nat → Rule α} {next : Nat → α → Rule β}
  {Q : α → List Char → Prop} {target : α → Nat → List Char → Prospect}
  {Q' : β → List Char → Prop} {target' : β → Nat → List Char → Prospect}

/-- A rule matches from prospects that agree. -/
theorem Matches.of_agree (goes_on : Matches source depth start' rule p after Q target)
    (agree : Agree depth start start') : Matches source depth start rule p after Q target := by
  refine Meets.imp goes_on ?_ ?_
  · rintro a q rest - ⟨good, agree'⟩
    exact ⟨good, fun frames left h => (agree frames left h).trans (agree' frames left h)⟩
  · intro cause agree' frames left h
    exact (agree frames left h).trans (agree' frames left h)

/-- A rule matches from a prospect that is the same. -/
theorem Matches.of_eq (goes_on : Matches source depth start' rule p after Q target)
    (eq : start = start') : Matches source depth start rule p after Q target :=
  goes_on.of_agree (fun _ _ _ => by rw [eq])

/-- Less may be said of what a rule leaves behind. -/
theorem Matches.imp {Q'' : α → List Char → Prop}
    (goes_on : Matches source depth start rule p after Q target)
    (value : ∀ a rest, rest <:+ after → Q a rest → Q'' a rest) :
    Matches source depth start rule p after Q'' target :=
  Meets.imp goes_on (fun a _ rest suffix good => ⟨value a rest suffix good.1, good.2⟩)
    (fun _ agree => agree)

/-- What agrees inside of a bracket agrees around it. -/
theorem Matches.inside (goes_on : Matches source (depth + 1) start rule p after Q target)
    (frame : Option Value → Frame) :
    Matches source depth (start.inside frame) rule p after Q
      (fun a q rest => (target a q rest).inside frame) := by
  refine Meets.imp goes_on ?_ ?_
  · rintro a q rest - ⟨good, agree⟩
    exact ⟨good, fun frames left h => agree (frame left :: frames) none (by simp [h])⟩
  · intro cause agree frames left h
    exact agree (frame left :: frames) none (by simp [h])

/-- What agrees to the right of any sum agrees to the right of a given one. -/
theorem Matches.beside (goes_on : Matches source depth start rule p after Q target)
    (left : Option Value) :
    Matches source depth (start.beside left) rule p after Q
      (fun a q rest => (target a q rest).beside left) := by
  refine Meets.imp goes_on ?_ ?_
  · rintro a q rest - ⟨good, agree⟩
    exact ⟨good, fun frames _ h => agree frames left h⟩
  · intro cause agree frames _ h
    exact agree frames left h

/-- A chain of rules matches if both links do. -/
theorem Matches.bind (goes_first : Matches source depth start rule p after Q target)
    (goes_on : ∀ a q rest, Stands source q rest → rest <:+ after → Q a rest →
      Matches source depth (target a q rest) (fun fuel => next fuel a) q rest Q' target') :
    Matches source depth start (fun fuel => rule fuel >>= next fuel) p after Q' target' := by
  refine Meets.bind goes_first ?_
  rintro a q rest stands suffix ⟨good, agree⟩
  exact (goes_on a q rest stands suffix good).of_agree agree

/-! ## Steps -/

/-- A rule that only gives a value matches where the prospect is the same behind it. -/
theorem matches_pure {a : α} (stands : Stands source p after) (good : Q a after)
    (eq : start = target a p after) :
    Matches source depth start (fun _ => pure a) p after Q target :=
  meets_pure stands ⟨good, fun _ _ _ => by rw [eq]⟩

/-- A rule that only stops matches where the machine meets the same problem. -/
theorem matches_problem {cause : Problem} (stands : Stands source p after)
    (eq : start = .problem cause) :
    Matches source depth start (fun _ => (throw (.problem cause) : Rule α)) p after Q target :=
  meets_problem stands (fun _ _ _ => by rw [eq])

/-- A malformation matches where the machine meets it at the same place. -/
theorem matches_malformed {fault : Malformation} (stands : Stands source p after)
    (eq : start = .problem (.malformed p fault)) :
    Matches source depth start (fun _ => (malformed fault : Rule α)) p after Q target :=
  meets_malformed stands (fun _ _ _ => by rw [eq])

/-- The outcome of an operation decides. -/
theorem matches_outcome {x : Except Problem Value} (made : Value → Nat → List Char → Prospect)
    (stands : Stands source p after) :
    Matches source depth (Prospect.ofOutcome x (fun v => made v p after))
      (fun _ => ofExcept (ofOutcome x)) p after (fun _ rest => rest = after) made := by
  refine meets_of_except stands ?_
  cases x with
  | ok v => exact ⟨rfl, fun _ _ _ => rfl⟩
  | error cause => exact fun _ _ _ => rfl

/-- Behind blanks, if the machine skips them too. -/
theorem Matches.behind_blanks {next : Nat → Unit → Rule β} (start : Nat → List Char → Prospect)
    (stands : Stands source p after)
    (skips : start p after = start (p + String.utf8Len (after.takeWhile Text.isBlank))
      (after.dropWhile Text.isBlank))
    (goes_on : ∀ q rest, Stands source q rest → rest <:+ after →
      (∀ c ∈ rest.head?, Text.isBlank c = false) → (EndsTerm after → EndsTerm rest) →
      Matches source depth (start q rest) (fun fuel => next fuel ()) q rest Q' target') :
    Matches source depth (start p after) (fun fuel => skipBlanks source fuel >>= next fuel) p after
      Q' target' := by
  refine (meets_skipWhile Text.isBlank stands).bind ?_
  rintro ⟨⟩ _ _ past suffix ⟨rfl, rfl⟩
  refine (goes_on _ _ past suffix ?_ ?_).of_eq skips
  · intro c first
    have stops := List.head?_dropWhile_not Text.isBlank after
    rw [first] at stops
    simpa using stops
  · intro ends
    rwa [ends.no_blanks.2]

/-- Where a term has ended there are no blanks to skip. -/
theorem Matches.behind_no_blanks {next : Nat → Unit → Rule β} (stands : Stands source p after)
    (ends : EndsTerm after)
    (goes_on : Matches source depth start (fun fuel => next fuel ()) p after Q' target') :
    Matches source depth start (fun fuel => skipBlanks source fuel >>= next fuel) p after
      Q' target' := by
  refine (meets_skipWhile Text.isBlank stands).bind ?_
  rintro ⟨⟩ _ _ - - ⟨rfl, rfl⟩
  rw [ends.no_blanks.1, ends.no_blanks.2]
  exact goes_on

/-- Looking at the next character leaves it where it is. -/
theorem Matches.behind_peek {next : Nat → Option Char → Rule β} (stands : Stands source p after)
    (goes_on : Matches source depth start (fun fuel => next fuel after.head?) p after Q' target') :
    Matches source depth start (fun fuel => peek source >>= next fuel) p after Q' target' := by
  refine (meets_peek stands).bind ?_
  rintro _ _ _ - - ⟨rfl, rfl, rfl⟩
  exact goes_on

/-- Taking the next character moves behind it. -/
theorem Matches.behind_bump {next : Nat → Option Char → Rule β} {c : Char}
    (stands : Stands source p (c :: after))
    (goes_on : Stands source (p + c.utf8Size) after →
      Matches source depth start (fun fuel => next fuel (some c)) (p + c.utf8Size) after
        Q' target') :
    Matches source depth start (fun fuel => bump source >>= next fuel) p (c :: after)
      Q' target' := by
  refine (meets_bump stands).bind ?_
  rintro _ _ _ past - ⟨rfl, rfl, rfl⟩
  exact goes_on past

/-- At the end of the source there is no character to take. -/
theorem Matches.behind_bump_end {next : Nat → Option Char → Rule β} (stands : Stands source p [])
    (goes_on : Matches source depth start (fun fuel => next fuel none) p [] Q' target') :
    Matches source depth start (fun fuel => bump source >>= next fuel) p [] Q' target' := by
  refine (meets_bump_end stands).bind ?_
  rintro _ _ _ - - ⟨rfl, rfl, rfl⟩
  exact goes_on

/-! ## Loops -/

/-- What holds of the characters that are left behind a turn that began in front of `count` ones. -/
def Turned (Goes Ends : List Char → Prop) (count : Nat) : ForInStep σ → List Char → Prop
  | .yield _, rest => Goes rest ∧ rest.length < count
  | .done _, rest => Ends rest

/-- The prospect behind a turn. -/
def turnTarget (again last : σ → Nat → List Char → Prospect) :
    ForInStep σ → Nat → List Char → Prospect
  | .yield s => again s
  | .done s => last s

/-- A loop matches if each of its turns does, since the turns that go on leave less of the
source. -/
theorem Matches.loop (turn : Nat → σ → Rule (ForInStep σ)) (Goes : List Char → Prop)
    (again : σ → Nat → List Char → Prospect) {Ends : List Char → Prop}
    {last : σ → Nat → List Char → Prospect} {s : σ}
    (turns : ∀ s p rest, rest.length ≤ after.length → Stands source p rest → Goes rest →
      Matches source depth (again s p rest) (fun fuel => turn fuel s) p rest
        (Turned Goes Ends rest.length) (turnTarget again last))
    (stands : Stands source p after) (goes : Goes after) :
    Matches source depth (again s p after) (fun fuel => Descent.loop (turn fuel) fuel s) p after
      (fun _ => Ends) last := by
  refine Meets.loop turn
    (fun t q rest => Goes rest ∧ Agree depth (again s p after) (again t q rest))
    after.length ?_ le_rfl stands ⟨goes, fun _ _ _ => rfl⟩
  rintro t q rest short stands ⟨goes, agree⟩
  refine Meets.imp ((turns t q rest short stands goes).of_agree agree) ?_ (fun _ met => met)
  rintro (w | w) q rest - good
  · exact good
  · exact ⟨⟨good.1.1, good.2⟩, good.1.2⟩

end

end Lipogram.Descent
