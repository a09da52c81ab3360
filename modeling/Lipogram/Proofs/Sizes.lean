import Lipogram.Proofs.Loads

/-!
# Sizes of values

How large the values get that a source is evaluated with, as long as no list is printed. No number
in them is larger than three times the bytes of the source (`evaluate_linear`): what the machine
holds is no larger than its load. So for sources of less than `2 ^ 61` bytes, all lengths and sums
that operations come to are numbers that a machine word with a sign can hold.
-/

set_option autoImplicit false

namespace Lipogram.Reader

/-! ## Operations -/

/-- An operation on values. -/
inductive Operation where
  | call (f : Builtin) (args : List Value)
  | add (a b : Value)
  | pick (base index : Value)

/-- The value of the term that was read last, where a term was read last. -/
def State.term? (s : State) : Option (Except Problem Value) :=
  { s with left := none }.sum?

/-- The operations on values that the state `s` gives rise to where the characters `after` follow: a
bracket that closes calls a built-in or picks a part of a value, and the term that was read last is
added to what stands to the left of it. -/
inductive State.Performs (s : State) (after : List Char) : Operation → Prop where
  | callEmpty {f : Builtin} {more : List Char} (opened : s.focus = .opened (.call f))
    (closes : after = ')' :: more) : s.Performs after (.call f [])
  | call {f : Builtin} {done : List Value} {left : Option Value} {frames : List Frame}
    {sum : Value} {more : List Char} (frame : s.frames = .items (.call f) done left :: frames)
    (found : s.sum? = some (.ok sum)) (closes : after = ')' :: more) :
    s.Performs after (.call f (sum :: done).reverse)
  | add {sum v : Value} (left : s.left = some sum) (term : s.term? = some (.ok v)) :
    s.Performs after (.add sum v)
  | pick {base index : Value} {left : Option Value} {frames : List Frame} {more : List Char}
    (frame : s.frames = .index base left :: frames) (found : s.sum? = some (.ok index))
    (closes : after = ']' :: more) : s.Performs after (.pick base index)

/-- The operations that are performed while a source is evaluated. -/
def Performed (source : String) (operation : Operation) : Prop :=
  ∃ before after s, source.toList = before ++ after ∧
    read 0 (.start 0 0) before = .reading s ∧ s.Performs after operation

end Lipogram.Reader

namespace Lipogram

namespace Value

/-- No number in a value, at any depth, is larger than `bound`: no integer, and no integer is
negative either, and no length of a text or list. -/
structure Within (bound : Nat) (v : Value) : Prop where
  int : ∀ n, v.Contains (.int n) → 0 ≤ n ∧ n ≤ bound
  str : ∀ s, v.Contains (.str s) → s.length ≤ bound
  list : ∀ items, v.Contains (.list items) → items.length ≤ bound

/-- The number of characters of a text or of items of a list. -/
def count? : Value → Option Nat
  | str s => some s.length
  | list items => some items.length
  | _ => none

/-- A natural value has no size that is greater than its weight. -/
theorem within_of_weight {v : Value} {bound : Nat} (natural : v.IsNatural)
    (weight : v.weight ≤ bound) : v.Within bound where
  int n contains := by
    have inside := contains.weight_le
    have nonnegative := natural n contains
    rw [Value.weight] at inside
    omega
  str s contains := by
    have inside := contains.weight_le
    rw [Value.weight] at inside
    omega
  list items contains := by
    have inside := contains.weight_le
    have count := length_le_weights items
    rw [Value.weight] at inside
    omega

end Value

/-- The integers from zero to the largest that a machine word with a sign can hold. -/
def IsWord (n : Int) : Prop :=
  0 ≤ n ∧ n ≤ 2 ^ 63 - 1

/-- The number of items of a value within the bound is a word. -/
theorem Value.Within.count_isWord {v : Value} {bound n : Nat} (within : v.Within bound)
    (small : bound ≤ 2 ^ 63 - 1) (h : v.count? = some n) : IsWord n := by
  have fits : n ≤ bound := by
    cases v with
    | str s =>
      obtain rfl := Option.some.inj h
      exact within.str s (.itself _)
    | list items =>
      obtain rfl := Option.some.inj h
      exact within.list items (.itself _)
    | _ => simp [count?] at h
  unfold IsWord
  omega

/-- The integer that such a value stands for is a word. -/
theorem Value.Within.int_isWord {v : Value} {bound : Nat} {n : Int} (within : v.Within bound)
    (small : bound ≤ 2 ^ 63 - 1) (h : v.toInt? = some n) : IsWord n := by
  cases v with
  | int m =>
    obtain rfl := Option.some.inj h
    have fits := within.int m (.itself _)
    unfold IsWord
    omega
  | bool b =>
    obtain rfl := Option.some.inj h
    cases b <;> exact ⟨by decide, by decide⟩
  | _ => simp [toInt?] at h

open Reader

/-- Machine words can hold the numbers that an operation counts or adds up, and an index is counted
from the beginning, so that no length is added to it. -/
def Reader.Operation.InRange : Operation → Prop
  | call _ args => ∀ v ∈ args, ∀ n, v.count? = some n → IsWord n
  | add a b => ∀ m n, a.toInt? = some m → b.toInt? = some n → IsWord (m + n)
  | pick base index =>
    (∀ n, base.count? = some n → IsWord n) ∧ ∀ n, index.toInt? = some n → IsWord n

/-- The term that was read last is added to what stands to the left of it. -/
theorem Reader.State.sum_of_term {s : State} {sum v : Value} (left : s.left = some sum)
    (term : s.term? = some (.ok v)) : s.sum? = some (sum.add v) := by
  obtain ⟨offset, frames, own, focus⟩ := s
  obtain rfl : own = some sum := left
  cases focus with
  | operand => simp [term?, sum?] at term
  | opened maker => simp [term?, sum?] at term
  | word letters =>
    have named_ok := Option.some.inj term
    obtain ⟨f, known, value⟩ := bind_eq_ok.mp named_ok
    obtain rfl := Except.ok.inj value
    simp [sum?, known, total]
  | name f =>
    obtain rfl := Except.ok.inj (Option.some.inj term)
    rfl
  | term w =>
    obtain rfl := Except.ok.inj (Option.some.inj term)
    rfl

/-- The value of a source is the sum up to its last term. -/
theorem Reader.sum_of_evaluate {source : String} {v : Value} (h : evaluate source = .ok v) :
    ∃ s, read 0 (.start 0 0) source.toList = .reading s ∧ s.sum? = some (.ok v) := by
  unfold evaluate at h
  cases reads : read 0 (.start 0 0) source.toList with
  | reading s =>
    rw [reads] at h
    refine ⟨s, rfl, ?_⟩
    rcases s.finish_cases with ⟨problem, -, ended, -⟩ | ⟨sum, found, -, ended⟩ | ⟨fault, ended, -⟩
    · simpa using ended.symm.trans h
    · obtain rfl := Except.ok.inj (ended.symm.trans h)
      exact found
    · simpa using ended.symm.trans h
  | ended w offset => simp [reads, Status.finish] at h
  | failed offset problem => simp [reads, Status.finish] at h

section

variable {source : String} {before after : List Char} {s : State}

/-- If no list is printed, all values that the machine holds are small, and so is the sum up to the
term that was read last. -/
theorem Reader.within_of_reads
    (quiet : ∀ items, ¬Performed source (.call .str [.list items]))
    (split : source.toList = before ++ after) (reads : read 0 (.start 0 0) before = .reading s) :
    s.Holds (Value.Within (3 * source.utf8ByteSize)) ∧
      ∀ v, s.sum? = some (.ok v) → v.Within (3 * source.utf8ByteSize) := by
  have light : s.load ≤ 3 * s.offset := by
    refine read_load (fun front c rest s' sum split_at reads_front found => ?_) split reads
    intro closes left frames frame items list
    subst closes list
    exact quiet items ⟨front, _, s', split_at, reads_front, .call frame found rfl⟩
  have reached := read_reaches carried_natural reads
  have bound : s.load ≤ 3 * source.utf8ByteSize := by
    have whole : source = String.ofList before ++ String.ofList after := by
      rw [← String.ofList_append, ← split, String.ofList_toList]
    rw [whole, String.utf8ByteSize_append]
    rw [reached.offset] at light
    omega
  constructor
  · refine reached.holds.of_load (fun v natural weight => ?_)
    exact Value.within_of_weight natural (Nat.le_trans weight bound)
  · intro v found
    have natural := reached.sum carried_natural found
    have weight := State.sum_load found
    exact Value.within_of_weight natural (Nat.le_trans weight bound)

/-- Where no value is too large for machine words, no operation comes to a number that is. -/
theorem Reader.State.Performs.inRange {bound : Nat} {operation : Operation}
    (performs : s.Performs after operation) (small : bound ≤ 2 ^ 63 - 1)
    (holds : s.Holds (Value.Within bound))
    (within_sum : ∀ v, s.sum? = some (.ok v) → v.Within bound) : operation.InRange := by
  cases performs with
  | callEmpty opened closes =>
    intro v mem
    exact absurd mem List.not_mem_nil
  | @call f done left frames sum more frame found closes =>
    obtain ⟨done_within, -⟩ := holds.frames (.items (.call f) done left) (by simp [frame])
    intro v mem n count
    rcases List.mem_cons.mp (List.mem_reverse.mp mem) with rfl | mem
    · exact (within_sum v found).count_isWord small count
    · exact (done_within v mem).count_isWord small count
  | @add sum v left term =>
    intro m n first second
    have added : s.sum? = some (.ok (.int (m + n))) := by
      rw [s.sum_of_term left term, Value.add_integers first second]
    exact (within_sum _ added).int_isWord small rfl
  | @pick base index left frames more frame found closes =>
    obtain ⟨base_within, -⟩ := holds.frames (.index base left) (by simp [frame])
    exact ⟨fun n count => base_within.count_isWord small count,
      fun n number => (within_sum index found).int_isWord small number⟩

end

/-- The sizes of values are linear in the size of the source. If no list is printed in the
evaluation of a source, all integers in the values of its parts, and all lengths of the texts and
lists in them, are at most three times the number of its bytes; and if these are less than
`2 ^ 61`, machine words can hold all lengths and sums that the operations come to. -/
theorem evaluate_linear (source : String)
    (quiet : ∀ items, ¬Performed source (.call .str [.list items])) :
    (∀ before after s, source.toList = before ++ after →
      read 0 (.start 0 0) before = .reading s →
      s.Holds (Value.Within (3 * source.utf8ByteSize)) ∧
        ∀ v, s.sum? = some (.ok v) → v.Within (3 * source.utf8ByteSize)) ∧
    (∀ v, evaluate source = .ok v → v.Within (3 * source.utf8ByteSize)) ∧
    (source.utf8ByteSize < 2 ^ 61 → ∀ operation, Performed source operation →
      operation.InRange) := by
  refine ⟨?_, ?_, ?_⟩
  · intro before after s split reads
    exact within_of_reads quiet split reads
  · intro v value
    obtain ⟨s, reads, found⟩ := sum_of_evaluate value
    exact (within_of_reads quiet (List.append_nil _).symm reads).2 v found
  · rintro short operation ⟨before, after, s, split, reads, performs⟩
    obtain ⟨holds, within_sum⟩ := within_of_reads quiet split reads
    exact performs.inRange (by omega) holds within_sum

/-- A value is printed only where a parenthesis closes behind it. -/
theorem Reader.not_performed_print {source : String} {v : Value}
    (h : ∀ n s left frames, source.toList[n]? = some ')' →
      read 0 (.start 0 0) (source.toList.take n) = .reading s →
      s.frames = .items (.call .str) [] left :: frames → s.sum? ≠ some (.ok v)) :
    ¬Performed source (.call .str [v]) := by
  rintro ⟨before, after, s, split, reads, performs⟩
  generalize operation : Operation.call .str [v] = performed at performs
  cases performs with
  | callEmpty => simp at operation
  | add => simp at operation
  | pick => simp at operation
  | @call f done left frames sum more frame found closes =>
    obtain ⟨rfl, args⟩ := Operation.call.inj operation
    have only := congrArg List.reverse args
    rw [List.reverse_reverse, List.reverse_singleton] at only
    obtain ⟨rfl, rfl⟩ := List.cons.inj only
    refine h before.length s left frames ?_ ?_ frame found
    · rw [split, closes]
      simp
    · rw [split, List.take_left]
      exact reads

/-- The length of a printed built-in, close to the bound: `str(len)` has 8 bytes, and 23 characters
are printed. -/
theorem evaluate_linear_length :
    (∀ items, ¬Performed "len(str(len))" (.call .str [.list items])) ∧
      evaluate "len(str(len))" = .ok (.int 23) ∧ (Value.int 23).Within (3 * 13) ∧
      ∀ operation, Performed "len(str(len))" operation → operation.InRange := by
  have printed : Builtin.str.call [.builtin .len] = .ok (.str Builtin.len.text) := by
    simp [Builtin.call, Value.text, Value.literal]
  have behind_name : read 0 (.start 0 0) ("len(str(len))".toList.take 11) =
      .reading ⟨11, [.items (.call .str) [] none, .items (.call .len) [] none], none,
        .word ['n', 'e', 'l']⟩ := by rfl
  have behind_call : read 0 (.start 0 0) ("len(str(len))".toList.take 12) =
      .reading ⟨12, [.items (.call .len) [] none], none,
        .term (.str Builtin.len.text)⟩ := by
    have split : "len(str(len))".toList.take 12 = "len(str(len))".toList.take 11 ++ [')'] := rfl
    rw [split, read_append, behind_name]
    show State.close _ (.call .str) [.builtin .len] = _
    rw [State.close, Maker.make, printed]
    rfl
  have value : evaluate "len(str(len))" = .ok (.int 23) := by
    have split : "len(str(len))".toList = "len(str(len))".toList.take 12 ++ [')'] := rfl
    rw [evaluate, split, read_append, behind_call]
    rfl
  have closers : ∀ n < 13, "len(str(len))".toList[n]? = some ')' → n = 11 ∨ n = 12 := by decide
  have quiet : ∀ items, ¬Performed "len(str(len))" (.call .str [.list items]) := by
    intro items
    refine not_performed_print (fun n s left frames closer reads frame found => ?_)
    obtain ⟨inside, -⟩ := List.getElem?_eq_some_iff.mp closer
    rcases closers n inside closer with rfl | rfl
    · rw [behind_name] at reads
      obtain rfl := Status.reading.inj reads
      simpa using Except.ok.inj (Option.some.inj found)
    · rw [behind_call] at reads
      obtain rfl := Status.reading.inj reads
      simp at frame
  obtain ⟨-, within, ranges⟩ := evaluate_linear "len(str(len))" quiet
  exact ⟨quiet, value, within _ value, ranges (by decide)⟩

end Lipogram
