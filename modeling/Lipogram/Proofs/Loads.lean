import Lipogram.Proofs.Naturals
import Lipogram.Proofs.Weights
import Mathlib.Algebra.Order.BigOperators.Group.List
import Mathlib.Algebra.Order.Group.Nat

/-!
# Loads of the machine

What the values weigh that the machine holds, together with the characters of names and calls that
are still to become values. Each character adds at most three times its size to this load, unless it
makes a list be printed (`State.read_light`), so behind each beginning of a source the load is at
most three times what has been read (`read_load`).
-/

set_option autoImplicit false

namespace Lipogram.Reader

/-! ## The load of the machine -/

/-- The load of a bracket that has opened: the characters of a call. -/
def Maker.load : Maker → Nat
  | list => 0
  | call f => 3 * f.name.length + 3

/-- The load of the sum to the left of a term. -/
def leftLoad : Option Value → Nat
  | none => 0
  | some sum => sum.weight

/-- Where no sum stands to the left, nothing is held there. -/
@[simp]
theorem leftLoad_none : leftLoad none = 0 := rfl

/-- A sum to the left is held with its weight. -/
@[simp]
theorem leftLoad_some (sum : Value) : leftLoad (some sum) = sum.weight := rfl

/-- The load of an open bracket: the bracket itself and the values that it holds. -/
def Frame.load : Frame → Nat
  | items maker done left => maker.load + Value.weights done + leftLoad left
  | index base left => base.weight + leftLoad left

/-- The load of what has just been read. -/
def Focus.load : Focus → Nat
  | operand => 0
  | opened maker => maker.load
  | word letters => 3 * letters.length
  | name f => 3 * f.name.length
  | term v => v.weight

namespace State

/-- The load of the brackets that are open and of the sum to the left. -/
def held (s : State) : Nat :=
  (s.frames.map Frame.load).sum + leftLoad s.left

/-- The load of the machine. -/
def load (s : State) : Nat :=
  s.held + s.focus.load

end State

/-- The load of a machine that still reads is at most three times what it has read. -/
def Status.IsLight : Status → Prop
  | reading s => s.load ≤ 3 * s.offset
  | _ => True

/-- Where the character `c` closes a call of `str` with the one argument `sum`, this is no list. -/
def State.Quiet (s : State) (c : Char) (sum : Value) : Prop :=
  c = ')' → ∀ left frames, s.frames = .items (.call .str) [] left :: frames →
    ∀ items, sum ≠ .list items

/-- A sum with one more term is no heavier than both together. -/
theorem total_weight (left : Option Value) (v : Value) :
    Value.Weighs (leftLoad left + v.weight) (total left v) := by
  cases left with
  | none => simp [total, leftLoad, Value.Weighs, Lipogram.Holds]
  | some sum => exact sum.add_weight v

/-- Letters that name a built-in are as many as those of its name. -/
theorem named_length {letters : List Char} {f : Builtin} (h : State.named letters = .ok f) :
    letters.length = f.name.length := by
  simp only [State.named] at h
  split at h
  · next found =>
    obtain rfl := Except.ok.inj h
    rw [Builtin.ofName_eq_some found]
    simp
  · simp at h

namespace State

/-! ## Steps -/

variable {s : State}

/-- A machine stays light when a bracket closes, with two bytes read for it. -/
theorem close_light {maker : Maker} {items : List Value}
    (light : s.held + maker.load + Value.weights items + 2 ≤ 3 * s.offset)
    (noList : maker = .call .str → ∀ inner, items ≠ [.list inner]) :
    (s.close maker items).IsLight := by
  simp only [close]
  cases made : maker.make items with
  | error problem => trivial
  | ok v =>
    show s.held + v.weight ≤ 3 * s.offset
    cases maker with
    | list =>
      obtain rfl := Except.ok.inj made
      rw [Value.weight]
      omega
    | call f =>
      have outcome := (f.call_weight items (fun str => noList (congrArg _ str))).of_eq_ok made
      simp only [Maker.load] at light
      omega

/-- A machine stays light when a subscript closes. -/
theorem closeIndex_light {v index : Value} (light : s.held + v.weight ≤ 3 * s.offset) :
    (s.closeIndex v index).IsLight := by
  simp only [closeIndex]
  cases picked : v.pick index with
  | error problem => trivial
  | ok w =>
    have outcome := (v.pick_weight index).of_eq_ok picked
    show s.held + w.weight ≤ 3 * s.offset
    omega

variable (base : Nat) (c : Char)

/-- A machine stays light when a subscript opens. -/
theorem openIndex_light {v : Value} (light : s.held + v.weight ≤ 3 * s.offset) :
    (s.openIndex base v).IsLight := by
  simp only [openIndex]
  split_ifs
  · trivial
  · simp only [held] at light
    simp only [Status.IsLight, load, held, Focus.load, List.map_cons, List.sum_cons, Frame.load,
      leftLoad_none]
    omega

/-- A machine stays light where an operand must begin. -/
theorem readOperand_light (light : s.held ≤ 3 * s.offset) : (s.readOperand c).IsLight := by
  have size := c.utf8Size_pos
  simp only [readOperand]
  split_ifs
  · simp only [Status.IsLight, load, State.past, Focus.load, held] at light ⊢
    omega
  · simp only [Status.IsLight, load, State.past, Focus.load, held, Maker.load] at light ⊢
    omega
  · simp only [Status.IsLight, load, State.past, Focus.load, held, List.length_singleton] at light ⊢
    omega
  · trivial

/-- A machine stays light behind an opening bracket. -/
theorem readOpened_light {maker : Maker} (light : s.held + maker.load ≤ 3 * s.offset) :
    (s.readOpened base maker c).IsLight := by
  have size := c.utf8Size_pos
  simp only [readOpened]
  split_ifs
  · simp only [Status.IsLight, load, State.past, Focus.load, held] at light ⊢
    omega
  · refine close_light ?_ (by simp)
    simp only [State.past, held, Value.weights] at light ⊢
    omega
  · trivial
  · refine readOperand_light c ?_
    simp only [held, List.map_cons, List.sum_cons, Frame.load, Value.weights, leftLoad_none]
      at light ⊢
    omega

/-- A machine stays light behind a sum, unless a list is printed. -/
theorem readAfterSum_light {sum : Value}
    (light : (s.frames.map Frame.load).sum + sum.weight ≤ 3 * s.offset) (quiet : s.Quiet c sum) :
    (s.readAfterSum sum c).IsLight := by
  have size := c.utf8Size_pos
  obtain ⟨offset, frames, left, own⟩ := s
  simp only [readAfterSum]
  split
  · trivial
  · next maker done outer rest =>
    simp only [List.map_cons, List.sum_cons, Frame.load] at light
    split_ifs with comma closes
    · simp only [Status.IsLight, load, held, Focus.load, State.past, List.map_cons, List.sum_cons,
        Frame.load, Value.weights, leftLoad_none]
      omega
    · refine close_light ?_ ?_
      · simp only [held, State.past, Value.weights_reverse, Value.weights]
        omega
      · rintro rfl inner only
        have items := congrArg List.reverse only
        rw [List.reverse_reverse, List.reverse_singleton] at items
        obtain ⟨rfl, rfl⟩ := List.cons.inj items
        exact quiet closes outer rest rfl inner rfl
    · trivial
  · next v outer rest =>
    simp only [List.map_cons, List.sum_cons, Frame.load] at light
    split_ifs
    · refine closeIndex_light ?_
      simp only [held, State.past]
      omega
    · trivial

/-- A machine stays light behind a term, unless a list is printed. -/
theorem readAfterTerm_light {v : Value} (light : s.held + v.weight ≤ 3 * s.offset)
    (quiet : ∀ sum, total s.left v = .ok sum → s.Quiet c sum) :
    (s.readAfterTerm base v c).IsLight := by
  have size := c.utf8Size_pos
  have sum_weight := total_weight s.left v
  simp only [held] at light
  simp only [readAfterTerm]
  split_ifs with blank bracket plus
  · simp only [Status.IsLight, load, held, Focus.load, State.past]
    omega
  · refine openIndex_light base ?_
    simp only [held, State.past]
    omega
  · cases found : total s.left v with
    | error problem => trivial
    | ok sum =>
      have sum_light := sum_weight.of_eq_ok found
      simp only [Status.IsLight, load, held, Focus.load, State.past, leftLoad_some]
      omega
  · cases found : total s.left v with
    | error problem => trivial
    | ok sum =>
      have sum_light := sum_weight.of_eq_ok found
      refine readAfterSum_light c ?_ (quiet sum found)
      omega

/-- A machine stays light behind a name, unless a list is printed. -/
theorem readAfterName_light {f : Builtin} (light : s.held + 3 * f.name.length ≤ 3 * s.offset)
    (quiet : ∀ sum, total s.left (.builtin f) = .ok sum → s.Quiet c sum) :
    (s.readAfterName base f c).IsLight := by
  have size := c.utf8Size_pos
  simp only [readAfterName]
  split_ifs
  · simp only [Status.IsLight, load, held, Focus.load, State.past] at light ⊢
    omega
  · simp only [Status.IsLight, load, held, Focus.load, State.past, Maker.load] at light ⊢
    omega
  · exact readAfterTerm_light base c (by simpa [Value.weight] using light) quiet

/-- What is read adds at most three times its size to the load, unless it makes a list print. -/
theorem read_light (light : s.load ≤ 3 * s.offset)
    (quiet : ∀ sum, s.sum? = some (.ok sum) → s.Quiet c sum) : (s.read base c).IsLight := by
  have size := c.utf8Size_pos
  obtain ⟨offset, frames, left, focus⟩ := s
  simp only [load] at light
  cases focus with
  | operand => exact readOperand_light c light
  | opened maker => exact readOpened_light base c light
  | word letters =>
    simp only [read, readInWord]
    split_ifs
    · simp only [Status.IsLight, load, held, Focus.load, State.past, List.length_cons] at light ⊢
      omega
    · cases known : named letters with
      | error problem => trivial
      | ok f =>
        have letters_length := named_length known
        refine readAfterName_light base c ?_ (fun sum found => quiet sum ?_)
        · rw [← letters_length]
          exact light
        · simp [sum?, known, found]
  | name f =>
    exact readAfterName_light base c light (fun sum found => quiet sum (congrArg some found))
  | term v =>
    exact readAfterTerm_light base c light (fun sum found => quiet sum (congrArg some found))

end State

/-! ## Runs -/

/-- As long as no list is printed, the machine is light behind each beginning of a source. -/
theorem read_load {source : List Char}
    (quiet : ∀ before c after s sum, source = before ++ c :: after →
      read 0 (.start 0 0) before = .reading s → s.sum? = some (.ok sum) → s.Quiet c sum)
    {before after : List Char} {s : State} (split : source = before ++ after)
    (reads : read 0 (.start 0 0) before = .reading s) : s.load ≤ 3 * s.offset := by
  induction before using List.reverseRecOn generalizing after s with
  | nil =>
    obtain rfl := Status.reading.inj reads
    exact Nat.le_refl 0
  | append_singleton before c ih =>
    have split_before : source = before ++ c :: after := by simpa using split
    rw [read_append] at reads
    cases behind : read 0 (.start 0 0) before with
    | reading s' =>
      rw [behind] at reads
      have step : s'.read 0 c = .reading s := reads
      have light := s'.read_light 0 c (ih split_before behind)
        (fun sum found => quiet before c after s' sum split_before behind found)
      rw [step] at light
      exact light
    | _ =>
      -- a machine that has stopped does not read on
      rw [behind] at reads
      cases reads

/-! ## Values that the machine holds -/

/-- A sum weighs no more than it loads the machine with. -/
theorem weight_le_leftLoad {left : Option Value} {v : Value} (mem : v ∈ left) :
    v.weight ≤ leftLoad left := by
  rw [Option.mem_def.mp mem, leftLoad_some]

/-- The values that a bracket holds weigh no more than it loads the machine with. -/
theorem Frame.Holds.of_load {P Q : Value → Prop} {frame : Frame} (holds : frame.Holds P)
    (h : ∀ v, P v → v.weight ≤ frame.load → Q v) : frame.Holds Q := by
  cases frame with
  | items maker done left =>
    refine ⟨fun v mem => h v (holds.1 v mem) ?_, fun v mem => h v (holds.2 v mem) ?_⟩
    · have item := Value.weight_lt_of_mem mem
      rw [load]
      omega
    · have sum := weight_le_leftLoad mem
      rw [load]
      omega
  | index base left =>
    refine ⟨h base holds.1 ?_, fun v mem => h v (holds.2 v mem) ?_⟩
    · rw [load]
      omega
    · have sum := weight_le_leftLoad mem
      rw [load]
      omega

namespace State

variable {s : State}

/-- The values that the machine holds weigh no more than its load. -/
theorem Holds.of_load {P Q : Value → Prop} (holds : s.Holds P)
    (h : ∀ v, P v → v.weight ≤ s.load → Q v) : s.Holds Q where
  frames frame mem := by
    have inside : frame.load ≤ (s.frames.map Frame.load).sum :=
      List.le_sum_of_mem (List.mem_map_of_mem mem)
    refine (holds.frames frame mem).of_load (fun v own weight => h v own ?_)
    rw [load, held]
    omega
  left v mem := by
    have sum := weight_le_leftLoad mem
    refine h v (holds.left v mem) ?_
    rw [load, held]
    omega
  term v term := by
    refine h v (holds.term v term) ?_
    rw [load, term, Focus.load]
    omega

/-- The sum up to the term that was read last weighs no more than the load. -/
theorem sum_load {x : Except Problem Value} (found : s.sum? = some x) : Value.Weighs s.load x := by
  have total_load (v : Value) (h : v.weight = s.focus.load) :
      Value.Weighs s.load (total s.left v) := by
    refine (total_weight s.left v).mono ?_
    rw [load, held]
    omega
  obtain ⟨offset, frames, left, focus⟩ := s
  cases focus with
  | operand => simp [sum?] at found
  | opened maker => simp [sum?] at found
  | word letters =>
    obtain rfl := Option.some.inj found
    cases known : named letters with
    | error problem => trivial
    | ok f =>
      refine total_load (.builtin f) ?_
      rw [Value.weight, Focus.load, named_length known]
  | name f =>
    obtain rfl := Option.some.inj found
    exact total_load (.builtin f) rfl
  | term v =>
    obtain rfl := Option.some.inj found
    exact total_load v rfl

end State

end Lipogram.Reader
