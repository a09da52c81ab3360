import Lipogram.Host

/-!
# Runs in memory

What a program, or a step of one, comes to in a state. Many steps only ask for something or tell
something, and leave a state that differs from the one before in nothing that matters. Up to a
relation between states, a step becomes another one (`Becomes`) if it is that other step in a state
that is related to the first; so a program is followed step by step to the one step that has an
effect.
-/

set_option autoImplicit false

namespace Lipogram.Simulation

variable {σ α β : Type} {s : σ}

/-- The result of a run, and the state behind it. -/
def runIn (s : σ) (program : Simulation σ α) : α × σ :=
  (StateT.run program s).run

/-- The outcome of a step that may fail, and the state behind it. -/
def attempt (s : σ) (step : ExceptT Failure (Simulation σ) α) : Except Failure α × σ :=
  runIn s step.run

/-! ## Steps -/

/-- A run of two programs is a run of the second behind the first. -/
theorem runIn_bind (s : σ) (program : Simulation σ α) (next : α → Simulation σ β) :
    runIn s (program >>= next) = runIn (runIn s program).2 (next (runIn s program).1) := rfl

variable {step : ExceptT Failure (Simulation σ) α} {next : α → ExceptT Failure (Simulation σ) β}

/-- A step that only gives a result leaves the state as it is. -/
theorem attempt_pure (s : σ) (a : α) : attempt s (pure a) = (.ok a, s) := rfl

/-- A step that only fails leaves the state as it is. -/
theorem attempt_throw (s : σ) (e : Failure) :
    attempt s (throw e : ExceptT Failure (Simulation σ) α) = (.error e, s) := rfl

/-- A program that cannot fail is a step that succeeds. -/
theorem attempt_lift (s : σ) (program : Simulation σ α) :
    attempt s (ExceptT.lift program) = (.ok (runIn s program).1, (runIn s program).2) := rfl

/-- A chain of two steps goes on with the second if the first succeeds. -/
theorem attempt_bind (s : σ) (step : ExceptT Failure (Simulation σ) α)
    (next : α → ExceptT Failure (Simulation σ) β) :
    attempt s (step >>= next) =
      match attempt s step with
      | (.ok a, t) => attempt t (next a)
      | (.error e, t) => (.error e, t) := by
  have linked : attempt s (step >>= next) =
      runIn (attempt s step).2 (ExceptT.bindCont next (attempt s step).1) := rfl
  rw [linked]
  generalize attempt s step = outcome
  obtain ⟨result, t⟩ := outcome
  cases result <;> rfl

/-! ## Steps up to a relation -/

/-- A relation between states that does not count what a program tells. -/
structure Asides [Host (Simulation σ)] (R : σ → σ → Prop) : Prop where
  refl : ∀ s, R s s
  trans : ∀ {s t u}, R s t → R t u → R s u
  tell : ∀ s verbose event, R s (runIn s (Host.tell verbose event)).2

/-- A step is no more than another step, in a state that is related to this one. -/
def Becomes (R : σ → σ → Prop) (s : σ) (step other : ExceptT Failure (Simulation σ) α) : Prop :=
  ∃ t, R s t ∧ attempt s step = attempt t other

variable {R S : σ → σ → Prop}

/-- Steps that become each other do so up to any wider relation. -/
theorem Becomes.imp {other : ExceptT Failure (Simulation σ) α} (h : Becomes R s step other)
    (wider : ∀ t, R s t → S s t) : Becomes S s step other := by
  obtain ⟨t, related, same⟩ := h
  exact ⟨t, wider t related, same⟩

/-- A program that cannot fail becomes its result. -/
theorem becomes_lift {program : Simulation σ α} (related : R s (runIn s program).2) :
    Becomes R s (ExceptT.lift program) (pure (runIn s program).1) :=
  ⟨_, related, rfl⟩

/-- A chain of steps becomes what follows on the result of the first. -/
theorem Becomes.bind {a : α} (h : Becomes R s step (pure a)) :
    Becomes R s (step >>= next) (next a) := by
  obtain ⟨t, related, same⟩ := h
  refine ⟨t, related, ?_⟩
  rw [attempt_bind, same, attempt_pure]

/-- A chain of steps fails if the first one does. -/
theorem Becomes.bind_throw {e : Failure} (h : Becomes R s step (throw e)) :
    Becomes R s (step >>= next) (throw e) := by
  obtain ⟨t, related, same⟩ := h
  refine ⟨t, related, ?_⟩
  rw [attempt_bind, same, attempt_throw, attempt_throw]

section

variable [Host (Simulation σ)] (asides : Asides R)
include asides

/-- A step becomes itself. -/
theorem becomes_refl (s : σ) (step : ExceptT Failure (Simulation σ) α) : Becomes R s step step :=
  ⟨s, asides.refl s, rfl⟩

/-- Telling an event becomes nothing. -/
theorem becomes_tell (s : σ) (verbose : Bool) (event : Event) :
    Becomes R s (ExceptT.lift (Host.tell verbose event)) (pure ()) :=
  becomes_lift (asides.tell s verbose event)

/-- What a step becomes may become something else. -/
theorem Becomes.trans {first second third : ExceptT Failure (Simulation σ) α}
    (h : Becomes R s first second) (rest : ∀ t, R s t → Becomes R t second third) :
    Becomes R s first third := by
  obtain ⟨t, related, same⟩ := h
  obtain ⟨u, further, same'⟩ := rest t related
  exact ⟨u, asides.trans related further, same.trans same'⟩

end

/-! ## Steps that only ask -/

/-- A step has no effect that counts, and gives a result with a property or fails. -/
def Settles (R : σ → σ → Prop) (s : σ) (step : ExceptT Failure (Simulation σ) α)
    (holds : α → Prop) : Prop :=
  (∃ a, holds a ∧ Becomes R s step (pure a)) ∨ ∃ e, Becomes R s step (throw e)

section

variable {holds : α → Prop} [Host (Simulation σ)] (asides : Asides R)
include asides

/-- A step that only gives a result settles on it. -/
theorem settles_pure (s : σ) {a : α} (h : holds a) : Settles R s (pure a) holds :=
  .inl ⟨a, h, becomes_refl asides s _⟩

/-- A step that only fails settles on any property. -/
theorem settles_throw (s : σ) (e : Failure) :
    Settles R s (throw e : ExceptT Failure (Simulation σ) α) holds :=
  .inr ⟨e, becomes_refl asides s _⟩

/-- A step settles on what the step that it becomes settles on. -/
theorem Becomes.settles {first second : ExceptT Failure (Simulation σ) α}
    (h : Becomes R s first second) (rest : ∀ t, R s t → Settles R t second holds) :
    Settles R s first holds := by
  obtain ⟨t, related, same⟩ := h
  rcases rest t related with ⟨a, ha, u, further, result⟩ | ⟨e, u, further, failure⟩
  · exact .inl ⟨a, ha, u, asides.trans related further, same.trans result⟩
  · exact .inr ⟨e, u, asides.trans related further, same.trans failure⟩

/-- A chain of steps settles on what follows on the result of the first. -/
theorem Settles.bind {holds' : β → Prop} (h : Settles R s step holds)
    (rest : ∀ a, holds a → ∀ t, R s t → Settles R t (next a) holds') :
    Settles R s (step >>= next) holds' := by
  rcases h with ⟨a, ha, result⟩ | ⟨e, failure⟩
  · exact result.bind.settles asides (rest a ha)
  · exact .inr ⟨e, failure.bind_throw⟩

end

end Lipogram.Simulation
