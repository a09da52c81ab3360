import Lipogram.Proofs.Prefixes
import Mathlib.Data.List.Induction

/-!
# Runs of the machine

What holds behind every character of a source. As long as the machine reads, the values that it
holds have whatever property the operations carry, its offset is the size of what it has read, a
word that it is in is a name and stands at the end of what it has read, and behind an opening
bracket there is nothing but blanks (`read_reaches`). From there the outcome of a source is known:
its value has the property, and a problem is one of an operation, a name that stands in the source,
or a malformation at a place that its kind tells (`evaluate_met`).
-/

set_option autoImplicit false

namespace Lipogram

/-- Of some characters, the last one that is not blank opens a list, a call or a subscript. -/
def OpensLast (cs : List Char) : Prop :=
  ∃ bracket, (cs.filter (fun c => !Text.isBlank c)).getLast? = some bracket ∧
    (bracket = '[' ∨ bracket = '(')

/-- A bracket that has just been read is the last to open. -/
theorem opensLast_bracket (cs : List Char) {c : Char} (bracket : c = '[' ∨ c = '(') :
    OpensLast (cs ++ [c]) := by
  have notBlank : Text.isBlank c = false := by rcases bracket with rfl | rfl <;> rfl
  refine ⟨c, ?_, bracket⟩
  simp [notBlank]

/-- Blanks behind it do not count. -/
theorem OpensLast.blank {cs : List Char} (opens : OpensLast cs) {c : Char}
    (blank : Text.isBlank c = true) : OpensLast (cs ++ [c]) := by
  obtain ⟨bracket, last, kind⟩ := opens
  refine ⟨bracket, ?_, kind⟩
  simpa [blank] using last

/-- A name that is not known is the name of no built-in. -/
theorem Name.unknown {n : Name} {problem : Problem} (h : n.builtin = .error problem) :
    problem = .unknownName n.text ∧ ∀ f : Builtin, f.name ≠ n.text := by
  unfold Name.builtin at h
  split at h
  · simp at h
  · next missing =>
    refine ⟨(Except.error.inj h).symm, fun f same => ?_⟩
    rw [← same, Builtin.ofName_name] at missing
    simp at missing

/-- The name that a word is with one letter more. -/
def Name.longer (n : Name) {c : Char} (continues : continuesName c = true) : Name where
  first := n.first
  rest := n.rest ++ [c]
  first_starts := n.first_starts
  rest_continues := by simp [n.rest_continues, continues]

/-- The place of a malformation, between the characters in front of it and those behind it. -/
inductive Malformation.Between : Malformation → List Char → List Char → Prop where
  | unexpectedEnd (before : List Char) : Between .unexpectedEnd before []
  | unclosed (closer : Char) (before : List Char) : Between (.unclosed closer) before []
  | unexpected (c : Char) (before after : List Char) : Between (.unexpected c) before (c :: after)
  | expected (closer : Char) (orComma : Bool) (c : Char) (before after : List Char) :
    Between (.expected closer orComma c) (before ++ [c]) after
  | trailing {c : Char} (notBlank : Text.isBlank c = false) (noPlus : c ≠ '+') (noIndex : c ≠ '[')
    (before after : List Char) : Between .trailing before (c :: after)
  | nested {before : List Char} (opens : OpensLast before) (after : List Char) :
    Between .nestedTooDeeply before after

namespace Reader

/-- A problem that is met in a source: one of an operation, a name that is not known, or a
malformation at its place. The operations of the machine meet problems with the property `E`. -/
inductive Met (E : Problem → Prop) (source : List Char) : Problem → Prop where
  | operation {problem : Problem} (met : E problem) : Met E source problem
  | unknown {n : Name} {problem : Problem} (occurs : n.first :: n.rest <:+: source)
    (unknown : n.builtin = .error problem) : Met E source problem
  | malformed {fault : Malformation} {before after : List Char} (split : source = before ++ after)
    (place : fault.Between before after) :
    Met E source (.malformed (String.ofList before).utf8ByteSize fault)

/-- Where the machine is behind some characters, if it still reads. -/
structure Reached (P : Value → Prop) (cs : List Char) (s : State) : Prop where
  holds : s.Holds P
  offset : s.offset = (String.ofList cs).utf8ByteSize
  word : ∀ letters, s.focus = .word letters →
    ∃ n : Name, letters.reverse = n.first :: n.rest ∧ n.first :: n.rest <:+ cs
  opened : ∀ maker, s.focus = .opened maker → OpensLast cs

/-- The last character counts with its bytes. -/
theorem utf8ByteSize_concat (cs : List Char) (c : Char) :
    (String.ofList (cs ++ [c])).utf8ByteSize = (String.ofList cs).utf8ByteSize + c.utf8Size := by
  rw [String.ofList_append, String.utf8ByteSize_append, ← String.singleton_eq_ofList,
    String.utf8ByteSize_singleton]

section

variable {P : Value → Prop} {E : Problem → Prop} {base : Nat} {s : State} {cs : List Char}

/-! ## Steps -/

/-- A step leads from where the machine is to where it is one character further. -/
theorem Reached.step (carried : Carried P E) (reached : Reached P cs s) {c : Char} {s' : State}
    (h : s.read base c = .reading s') : Reached P (cs ++ [c]) s' := by
  have follows := s.read_follows base c carried reached.holds
  rw [h, reached.offset] at follows
  cases follows with
  | outside holds past rest opens =>
    refine ⟨holds, ?_, fun letters word => absurd word (rest letters), fun maker opened => ?_⟩
    · rw [utf8ByteSize_concat, past]
    · -- the bracket is the character itself, or stands in front of the blanks up to it
      rcases opens maker opened with square | round | ⟨blank, before⟩
      · exact opensLast_bracket cs (.inl square)
      · exact opensLast_bracket cs (.inr round)
      · exact (reached.opened maker before).blank blank
  | begins holds past word starts =>
    refine ⟨holds, ?_, fun letters same => ?_, fun maker opened => ?_⟩
    · rw [utf8ByteSize_concat, past]
    · obtain rfl := Focus.word.inj (word.symm.trans same)
      exact ⟨⟨c, [], starts, rfl⟩, rfl, List.suffix_append cs [c]⟩
    · simp [word] at opened
  | inside holds past before word continues =>
    refine ⟨holds, ?_, fun letters same => ?_, fun maker opened => ?_⟩
    · rw [utf8ByteSize_concat, past]
    · obtain ⟨n, spelled, start, rfl⟩ := reached.word _ before
      obtain rfl := Focus.word.inj (word.symm.trans same)
      refine ⟨n.longer continues, ?_, start, ?_⟩
      · simp [Name.longer, spelled]
      · simp [Name.longer]
    · simp [word] at opened

/-- The letters of a word name a built-in, or a name that is not known and stands where they do. -/
theorem named_met {letters : List Char} {n : Name} (spelled : letters.reverse = n.first :: n.rest)
    (occurs : n.first :: n.rest <:+: cs) :
    Lipogram.Holds (fun _ => True) (Met E cs) (State.named letters) := by
  have reversed : letters = n.rest.reverse ++ [n.first] := by
    rw [← List.reverse_reverse letters, spelled, List.reverse_cons]
  rw [reversed, named_name]
  cases found : n.builtin with
  | ok f => trivial
  | error problem => exact .unknown occurs found

/-- Where a machine stops, it has an outcome that is known, whatever stands behind the character. -/
theorem Reached.stop (carried : Carried P E) (reached : Reached P cs s) (c : Char)
    (after : List Char) (stopped : (s.read base c).Stopped) :
    Lipogram.Holds P (Met E (cs ++ c :: after)) ((s.read base c).finish base) := by
  have follows := s.read_follows base c carried reached.holds
  rw [reached.offset] at follows
  generalize s.read base c = status at follows stopped
  cases follows with
  | ended _ notBlank noIndex noPlus =>
    exact .malformed rfl (.trailing notBlank noPlus noIndex cs after)
  | operation place met => exact .operation met
  | unknown place before unknown =>
    -- the word ended in front of `c`, so the name stands in what had been read
    obtain ⟨n, spelled, suffix⟩ := reached.word _ before
    have occurs : n.first :: n.rest <:+: cs ++ c :: after :=
      suffix.isInfix.trans (List.infix_append' [] cs _)
    exact (named_met spelled occurs).of_eq_error unknown
  | unexpected => exact .malformed rfl (.unexpected c cs after)
  | expected closer orComma past =>
    subst past
    rw [← utf8ByteSize_concat]
    exact .malformed (by simp) (.expected closer orComma c cs after)
  | tooDeepItem before =>
    exact .malformed rfl (.nested (reached.opened _ before) _)
  | tooDeepIndex bracket past =>
    subst past
    rw [← utf8ByteSize_concat]
    exact .malformed (by simp) (.nested (opensLast_bracket cs (.inl bracket)) after)
  | _ => exact absurd stopped id

/-- The sum up to the term that was read last has the property that the operations carry. -/
theorem Reached.sum (carried : Carried P E) (reached : Reached P cs s) {x : Except Problem Value}
    (found : s.sum? = some x) : Lipogram.Holds P (Met E cs) x := by
  have total_met {v : Value} (v_holds : P v) : Lipogram.Holds P (Met E cs) (total s.left v) := by
    have holds := carried.total_holds reached.holds.left v_holds
    cases sum : total s.left v with
    | ok w => exact holds.of_eq_ok sum
    | error problem => exact .operation (holds.of_eq_error sum)
  obtain ⟨offset, frames, left, focus⟩ := s
  cases focus with
  | operand => simp [State.sum?] at found
  | opened maker => simp [State.sum?] at found
  | word letters =>
    obtain rfl := Option.some.inj found
    obtain ⟨n, spelled, suffix⟩ := reached.word letters rfl
    exact (named_met spelled suffix.isInfix).bind (fun f _ => total_met (carried.builtin f))
  | name f =>
    obtain rfl := Option.some.inj found
    exact total_met (carried.builtin f)
  | term v =>
    obtain rfl := Option.some.inj found
    exact total_met (reached.holds.term v rfl)

/-- Where the source ends, the outcome is known. -/
theorem Reached.finish (carried : Carried P E) (reached : Reached P cs s) :
    Lipogram.Holds P (Met E cs) (s.finish 0) := by
  have met_at_end {fault : Malformation} (place : fault.Between cs []) :
      Met E cs (.malformed s.offset fault) := by
    rw [reached.offset]
    exact .malformed (by simp) place
  cases found : s.sum? with
  | some x =>
    rw [State.finish_of_sum found]
    refine (reached.sum carried found).bind (fun sum holds => ?_)
    unfold State.finishSum
    split
    · exact holds
    · exact met_at_end (.unclosed _ cs)
  | none =>
    obtain ⟨offset, frames, left, focus⟩ := s
    cases focus with
    | operand => exact met_at_end (.unexpectedEnd cs)
    | opened maker =>
      simp only [State.finish]
      split_ifs
      · exact met_at_end (.nested (reached.opened maker rfl) [])
      · exact met_at_end (.unexpectedEnd cs)
    | _ => simp [State.sum?] at found

/-! ## Runs -/

/-- Behind characters that leave it reading, the machine has reached their end. -/
theorem read_reaches (carried : Carried P E) (h : read 0 (.start 0 0) cs = .reading s) :
    Reached P cs s := by
  induction cs using List.reverseRecOn generalizing s with
  | nil =>
    obtain rfl := Status.reading.inj h
    exact ⟨⟨by simp, by simp, by simp⟩, rfl, by simp, by simp⟩
  | append_singleton cs c ih =>
    rw [read_append] at h
    cases before : read 0 (.start 0 0) cs with
    | reading s' =>
      rw [before] at h
      exact (ih before).step carried h
    | _ =>
      -- a machine that has stopped does not read on
      rw [before] at h
      cases h

/-- The machine reads all characters, or stops at one of them. -/
theorem read_cases (cs : List Char) :
    (∃ s, read 0 (.start 0 0) cs = .reading s) ∨
      ∃ before c after s, cs = before ++ c :: after ∧ read 0 (.start 0 0) before = .reading s ∧
        (s.read 0 c).Stopped ∧ read 0 (.start 0 0) cs = s.read 0 c := by
  induction cs using List.reverseRecOn with
  | nil => exact .inl ⟨_, rfl⟩
  | append_singleton cs c ih =>
    rw [read_append]
    rcases ih with ⟨s, reads⟩ | ⟨before, d, after, s, rfl, reads, stopped, same⟩
    · have step : read 0 (read 0 (.start 0 0) cs) [c] = s.read 0 c := by
        rw [reads]
        rfl
      cases next : s.read 0 c with
      | reading s' => exact .inl ⟨s', step.trans next⟩
      | _ =>
        refine .inr ⟨cs, c, [], s, rfl, reads, ?_, step.trans ?_⟩
        · rw [next]
          trivial
        · rfl
    · refine .inr ⟨before, d, after ++ [c], s, by simp, reads, stopped, ?_⟩
      rw [same, read_of_stopped stopped]

end

end Reader

open Reader

/-- The value of a source has the property that the operations carry, and its problem is met in the
source. -/
theorem evaluate_met {P : Value → Prop} {E : Problem → Prop} (carried : Carried P E)
    (source : String) : Holds P (Met E source.toList) (evaluate source) := by
  unfold evaluate
  rcases read_cases source.toList with
    ⟨s, reads⟩ | ⟨before, c, after, s, split, reads, stopped, same⟩
  · rw [reads]
    exact (read_reaches carried reads).finish carried
  · rw [same, split]
    exact (read_reaches carried reads).stop carried c after stopped

end Lipogram
