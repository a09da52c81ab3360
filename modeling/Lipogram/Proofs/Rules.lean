import Lipogram.Proofs.Positions

/-!
# Runs of rules

What a rule comes to from a position on (`Meets`): with enough fuel it ends further on, with a value
or a problem that has a property, and it never takes what is not there. Rules that follow each other
do what they do one by one (`Meets.bind`), and a loop comes to an end if each of its turns that is
not the last makes progress (`Meets.loop`).
-/

set_option autoImplicit false

namespace Lipogram.Descent

/-! ## Outcomes -/

section

variable {α β : Type}

/-- A chain of rules begins with the first, and goes on where it has ended with a value. -/
theorem Rule.runAt_bind (rule : Rule α) (next : α → Rule β) (p : Nat) :
    (rule >>= next).runAt p = (rule.runAt p).bind (fun (x, q) =>
      match x with
      | .ok a => (next a).runAt q
      | .error stop => some (.error stop, q)) := by
  show Option.bind (rule.runAt p) _ = _
  congr
  funext ⟨x, q⟩
  cases x <;> rfl

variable {rule : Rule α} {next : α → Rule β} {p q : Nat}

/-- Behind a value the chain goes on. -/
theorem Rule.runAt_bind_ok {a : α} (h : rule.runAt p = some (.ok a, q)) :
    (rule >>= next).runAt p = (next a).runAt q := by
  rw [Rule.runAt_bind, h]
  rfl

/-- Where its first rule stops, the chain stops. -/
theorem Rule.runAt_bind_error {stop : Stop} (h : rule.runAt p = some (.error stop, q)) :
    (rule >>= next).runAt p = some (.error stop, q) := by
  rw [Rule.runAt_bind, h]
  rfl

end

/-! ## Ends of rules -/

section

variable {α β σ : Type}

/-- A rule comes to an end: from a position on it has a result and ends at another position, with
all fuel from some amount on. -/
def Ends (rule : Nat → Rule α) (p : Nat) (result : Except Stop α) (q : Nat) : Prop :=
  ∃ enough, ∀ fuel, enough ≤ fuel → (rule fuel).runAt p = some (result, q)

/-- The result of a rule that ends at a position, in front of some characters: a value with one
property, or a problem with another, and no fault. -/
def Good (P : α → Nat → List Char → Prop) (E : Problem → Prop) (q : Nat) (rest : List Char) :
    Except Stop α → Prop
  | .ok a => P a q rest
  | .error (.problem cause) => E cause
  | .error .fault => False

/-- A rule that begins at a position, in front of the characters `after`, comes to an end in front
of the last of them, with a good result. -/
def Meets (source : String) (rule : Nat → Rule α) (p : Nat) (after : List Char)
    (P : α → Nat → List Char → Prop) (E : Problem → Prop) : Prop :=
  ∃ result q rest, Ends rule p result q ∧ Stands source q rest ∧ rest <:+ after ∧
    Good P E q rest result

variable {source : String} {rule : Nat → Rule α} {p : Nat} {after : List Char}
  {P P' : α → Nat → List Char → Prop} {Q : β → Nat → List Char → Prop} {E E' : Problem → Prop}

/-- What is good is a value with its property, or a problem with its own. -/
theorem Good.split {q : Nat} {rest : List Char} {result : Except Stop α}
    (good : Good P E q rest result) :
    (∃ a, result = .ok a ∧ P a q rest) ∨
      ∃ cause, result = .error (.problem cause) ∧ E cause := by
  cases result with
  | ok a => exact .inl ⟨a, rfl, good⟩
  | error stop =>
    cases stop with
    | problem cause => exact .inr ⟨cause, rfl, good⟩
    | fault => exact good.elim

/-- Less may be said of what a rule comes to. -/
theorem Meets.imp (meets : Meets source rule p after P E)
    (value : ∀ a q rest, rest <:+ after → P a q rest → P' a q rest)
    (problem : ∀ cause, E cause → E' cause) : Meets source rule p after P' E' := by
  obtain ⟨result, q, rest, ends, stands, suffix, good⟩ := meets
  refine ⟨result, q, rest, ends, stands, suffix, ?_⟩
  obtain ⟨a, rfl, good⟩ | ⟨cause, rfl, met⟩ := good.split
  · exact value a q rest suffix good
  · exact problem cause met

/-- A rule that calls others has one fuel more than they. -/
theorem Meets.succ (meets : Meets source (fun fuel => rule (fuel + 1)) p after P E) :
    Meets source rule p after P E := by
  obtain ⟨result, q, rest, ⟨enough, ends⟩, further⟩ := meets
  refine ⟨result, q, rest, ⟨enough + 1, fun fuel le => ?_⟩, further⟩
  obtain ⟨less, rfl⟩ := Nat.exists_eq_add_of_le' le
  exact ends (less + enough) (Nat.le_add_left enough less)

/-- A result that takes no step. -/
theorem meets_of_result {x : Except Stop α} (stands : Stands source p after)
    (run : ∀ fuel, (rule fuel).runAt p = some (x, p)) (good : Good P E p after x) :
    Meets source rule p after P E :=
  ⟨x, p, after, ⟨0, fun fuel _ => run fuel⟩, stands, List.suffix_refl after, good⟩

/-- A rule that only gives a value ends where it begins. -/
theorem meets_pure {a : α} (stands : Stands source p after) (good : P a p after) :
    Meets source (fun _ => pure a) p after P E :=
  meets_of_result stands (fun _ => rfl) good

/-- So does a rule that only gives an outcome. -/
theorem meets_of_except {x : Except Stop α} (stands : Stands source p after)
    (good : Good P E p after x) : Meets source (fun _ => ofExcept x) p after P E :=
  meets_of_result stands (fun _ => by cases x <;> rfl) good

/-- So does a rule that only stops. -/
theorem meets_problem {cause : Problem} (stands : Stands source p after) (good : E cause) :
    Meets source (fun _ => (throw (.problem cause) : Rule α)) p after P E :=
  meets_of_result stands (fun _ => rfl) good

/-- A malformation is met at the position. -/
theorem meets_malformed {fault : Malformation} (stands : Stands source p after)
    (good : E (.malformed p fault)) :
    Meets source (fun _ => (malformed fault : Rule α)) p after P E :=
  meets_of_result stands (fun _ => rfl) good

/-- Behind a rule that has come to an end, the next one goes on. -/
theorem Meets.bind {next : Nat → α → Rule β} (meets : Meets source rule p after P E)
    (goes_on : ∀ a q rest, Stands source q rest → rest <:+ after → P a q rest →
      Meets source (fun fuel => next fuel a) q rest Q E) :
    Meets source (fun fuel => rule fuel >>= next fuel) p after Q E := by
  obtain ⟨result, q, rest, ⟨enough, ends⟩, stands, suffix, good⟩ := meets
  obtain ⟨a, rfl, good⟩ | ⟨cause, rfl, met⟩ := good.split
  · obtain ⟨result', q', rest', ⟨enough', ends'⟩, stands', suffix', good'⟩ :=
      goes_on a q rest stands suffix good
    refine ⟨result', q', rest', ⟨max enough enough', fun fuel le => ?_⟩, stands',
      suffix'.trans suffix, good'⟩
    rw [Rule.runAt_bind_ok (ends fuel (by omega))]
    exact ends' fuel (by omega)
  · refine ⟨.error (.problem cause), q, rest, ⟨enough, fun fuel le => ?_⟩, stands, suffix, met⟩
    exact Rule.runAt_bind_error (ends fuel le)

/-! ## Loops -/

/-- What a turn of a loop comes to, if it begins in front of `count` characters: either it is the
last one, or less characters are left. -/
def TurnTo (I P : σ → Nat → List Char → Prop) (count : Nat) :
    ForInStep σ → Nat → List Char → Prop
  | .yield s, q, rest => I s q rest ∧ rest.length < count
  | .done s, q, rest => P s q rest

/-- A loop goes on behind a turn that yields. -/
theorem runAt_loop_yield {turn : σ → Rule (ForInStep σ)} {s t : σ} {q fuel : Nat}
    (h : (turn s).runAt p = some (.ok (.yield t), q)) :
    (Descent.loop turn (fuel + 1) s).runAt p = (Descent.loop turn fuel t).runAt q := by
  rw [Descent.loop, Rule.runAt_bind_ok h]

/-- A loop ends with a turn that is done. -/
theorem runAt_loop_done {turn : σ → Rule (ForInStep σ)} {s t : σ} {q fuel : Nat}
    (h : (turn s).runAt p = some (.ok (.done t), q)) :
    (Descent.loop turn (fuel + 1) s).runAt p = some (.ok t, q) := by
  rw [Descent.loop, Rule.runAt_bind_ok h]
  rfl

/-- A loop stops where a turn does. -/
theorem runAt_loop_error {turn : σ → Rule (ForInStep σ)} {s : σ} {q fuel : Nat} {stop : Stop}
    (h : (turn s).runAt p = some (.error stop, q)) :
    (Descent.loop turn (fuel + 1) s).runAt p = some (.error stop, q) := by
  rw [Descent.loop, Rule.runAt_bind_error h]

/-- A loop comes to an end if each turn that is not the last makes progress: the characters that are
left bound the turns. -/
theorem Meets.loop (turn : Nat → σ → Rule (ForInStep σ)) (I : σ → Nat → List Char → Prop)
    {P : σ → Nat → List Char → Prop} (n : Nat)
    (turns : ∀ s p after, after.length ≤ n → Stands source p after → I s p after →
      Meets source (fun fuel => turn fuel s) p after (TurnTo I P after.length) E)
    {s : σ} (short : after.length ≤ n) (stands : Stands source p after) (invariant : I s p after) :
    Meets source (fun fuel => Descent.loop (turn fuel) fuel s) p after P E := by
  -- the fuel of the loop goes down from turn to turn, that of the turns does not
  have both : ∃ result q rest,
      (∃ enough, ∀ fuel left, enough ≤ fuel → enough < left →
        (Descent.loop (turn fuel) left s).runAt p = some (result, q)) ∧
      Stands source q rest ∧ rest <:+ after ∧ Good P E q rest result := by
    induction h : after.length using Nat.strong_induction_on generalizing s p after with
    | _ count ih =>
      subst h
      obtain ⟨result, q, rest, ⟨enough, ends⟩, stands', suffix, good⟩ :=
        turns s p after short stands invariant
      obtain ⟨next, rfl, good⟩ | ⟨cause, rfl, met⟩ := good.split
      · cases next with
        | yield t =>
          obtain ⟨again, fewer⟩ := good
          obtain ⟨result', q', rest', ⟨enough', ends'⟩, stands'', suffix', good'⟩ :=
            ih rest.length fewer (by omega) stands' again rfl
          refine ⟨result', q', rest', ⟨max enough enough' + 1, fun fuel left le lt => ?_⟩, stands'',
            suffix'.trans suffix, good'⟩
          obtain ⟨left, rfl⟩ := Nat.exists_eq_add_of_lt lt
          rw [runAt_loop_yield (ends fuel (by omega))]
          exact ends' fuel _ (by omega) (by omega)
        | done t =>
          refine ⟨.ok t, q, rest, ⟨enough, fun fuel left le lt => ?_⟩, stands', suffix, good⟩
          obtain ⟨left, rfl⟩ := Nat.exists_eq_add_of_lt lt
          exact runAt_loop_done (ends fuel le)
      · refine ⟨.error (.problem cause), q, rest, ⟨enough, fun fuel left le lt => ?_⟩, stands',
          suffix, met⟩
        obtain ⟨left, rfl⟩ := Nat.exists_eq_add_of_lt lt
        exact runAt_loop_error (ends fuel le)
  obtain ⟨result, q, rest, ⟨enough, ends⟩, further⟩ := both
  exact ⟨result, q, rest, ⟨enough + 1, fun fuel le => ends fuel fuel (by omega) le⟩, further⟩

end

/-! ## Steps -/

section

variable {source : String} {p : Nat} {after : List Char} {c : Char} {E : Problem → Prop}

/-- Looking at the next character leaves the position. -/
theorem Stands.runAt_peek (stands : Stands source p after) :
    (peek source).runAt p = some (.ok after.head?, p) := by
  have sliced : (Descent.slice source p source.utf8ByteSize).runAt p =
      some (.ok (String.ofList after), p) := by
    rw [Descent.slice, stands.slice_rest]
    rfl
  have unfolded : (peek source).runAt p =
      (Descent.slice source p source.utf8ByteSize >>= fun rest =>
        pure rest.toList.head?).runAt p := rfl
  rw [unfolded, Rule.runAt_bind_ok sliced, String.toList_ofList]
  rfl

/-- Asking for the position leaves it. -/
theorem meets_get (stands : Stands source p after) :
    Meets source (fun _ => (get : Rule Nat)) p after
      (fun at_place q rest => at_place = p ∧ q = p ∧ rest = after) E :=
  meets_of_result stands (fun _ => rfl) (x := .ok p) ⟨rfl, rfl, rfl⟩

/-- The next character is seen, and no step taken. -/
theorem meets_peek (stands : Stands source p after) :
    Meets source (fun _ => peek source) p after
      (fun next q rest => next = after.head? ∧ q = p ∧ rest = after) E :=
  meets_of_result stands (fun _ => stands.runAt_peek) ⟨rfl, rfl, rfl⟩

/-- Taking the next character moves the position behind it. -/
theorem Stands.runAt_bump (stands : Stands source p (c :: after)) :
    (bump source).runAt p = some (.ok (some c), p + c.utf8Size) := by
  rw [bump, Rule.runAt_bind_ok stands.runAt_peek]
  rfl

/-- At the end of the source there is no character to take. -/
theorem Stands.runAt_bump_end (stands : Stands source p []) :
    (bump source).runAt p = some (.ok none, p) := by
  rw [bump, Rule.runAt_bind_ok stands.runAt_peek]
  rfl

/-- The step behind the next character. -/
theorem meets_bump (stands : Stands source p (c :: after)) :
    Meets source (fun _ => bump source) p (c :: after)
      (fun next q rest => next = some c ∧ q = p + c.utf8Size ∧ rest = after) E :=
  ⟨.ok (some c), p + c.utf8Size, after, ⟨0, fun _ _ => stands.runAt_bump⟩, stands.next,
    List.suffix_cons c after, ⟨rfl, rfl, rfl⟩⟩

/-- At the end there is no step to take. -/
theorem meets_bump_end (stands : Stands source p []) :
    Meets source (fun _ => bump source) p []
      (fun next q rest => next = none ∧ q = p ∧ rest = []) E :=
  meets_of_result stands (fun _ => stands.runAt_bump_end) (x := .ok none) ⟨rfl, rfl, rfl⟩

/-- The characters of a class that come next are skipped. -/
theorem meets_skipWhile (among : Char → Bool) (stands : Stands source p after) :
    Meets source (fun fuel => skipWhile source among fuel) p after
      (fun _ q rest => rest = after.dropWhile among ∧
        q = p + String.utf8Len (after.takeWhile among)) E := by
  -- what is still to be skipped stays what it is from turn to turn
  refine Meets.loop (fun _ => skipOne source among)
    (fun _ q rest => rest.dropWhile among = after.dropWhile among ∧
      q + String.utf8Len (rest.takeWhile among) = p + String.utf8Len (after.takeWhile among))
    after.length ?_ le_rfl stands ⟨rfl, rfl⟩
  rintro ⟨⟩ q rest - stands ⟨behind, size⟩
  refine (meets_peek stands).bind ?_
  rintro _ q rest stands - ⟨rfl, rfl, rfl⟩
  split_ifs with inside
  · obtain ⟨c, rest, rfl⟩ : ∃ c tail, rest = c :: tail := by
      cases rest with
      | nil => simp at inside
      | cons c tail => exact ⟨c, tail, rfl⟩
    have skipped : among c = true := by simpa using inside
    refine (meets_bump stands).bind ?_
    rintro _ _ rest past - ⟨rfl, rfl, rfl⟩
    refine meets_pure past ⟨⟨?_, ?_⟩, by simp⟩
    · rw [← behind, List.dropWhile_cons_of_pos skipped]
    · rw [← size, List.takeWhile_cons_of_pos skipped, String.utf8Len_cons]
      omega
  · have ended : ∀ c ∈ rest.head?, among c = false := by
      intro c first
      rw [first] at inside
      simpa using inside
    have none_left : rest.takeWhile among = [] ∧ rest.dropWhile among = rest := by
      cases rest with
      | nil => exact ⟨rfl, rfl⟩
      | cons c rest => simp [ended c rfl]
    refine meets_pure stands ⟨?_, ?_⟩
    · rw [← behind, none_left.2]
    · rw [← size, none_left.1]
      rfl

/-- The letters that come next are the name. -/
theorem meets_name (stands : Stands source p after) :
    Meets source (fun fuel => name source fuel) p after
      (fun word q rest => word = String.ofList (after.takeWhile continuesName) ∧
        rest = after.dropWhile continuesName ∧
        q = p + String.utf8Len (after.takeWhile continuesName)) E := by
  refine (meets_get stands).bind ?_
  rintro _ p after stands - ⟨rfl, rfl, rfl⟩
  refine (meets_skipWhile continuesName stands).bind ?_
  rintro ⟨⟩ _ _ past - ⟨rfl, rfl⟩
  refine (meets_get past).bind ?_
  rintro _ _ _ past' - ⟨rfl, rfl, rfl⟩
  rw [← List.takeWhile_append_dropWhile (p := continuesName) (l := after)] at stands
  refine meets_of_except past' ?_
  rw [stands.slice]
  exact ⟨rfl, rfl, rfl⟩

end

end Lipogram.Descent
