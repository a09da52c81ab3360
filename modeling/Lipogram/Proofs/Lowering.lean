import Lipogram.Proofs.RoundTrip

/-!
# Texts in lower case

A text in lower case is its own lower case (`lowercase_lowercase`): no character that another one
is lowered to has a lower case of its own, and there is no capital sigma left whose form could
depend on its place. So what an encoding evaluates to is encoded in the same way again
(`encode_again`).
-/

set_option autoImplicit false

namespace Lipogram.Text

/-! ## The table of lower cases -/

/-- The least code that the codes of a run are lowered to. -/
def CaseRun.lowest (run : CaseRun) : Nat :=
  (run.first + run.shift).toNat

/-- The greatest code that the codes of a run are lowered to. -/
def CaseRun.highest (run : CaseRun) : Nat :=
  (run.last + run.shift).toNat

/-- The codes that a run is lowered to are none of another run: all of them lie in front of it or
behind it, or they fall between its codes, which are every second one. -/
def CaseRun.misses (run other : CaseRun) : Bool :=
  Nat.blt run.highest other.first || Nat.blt other.last run.lowest ||
    (Nat.beq other.stride 2 && (Nat.beq run.stride 2 || Nat.beq run.lowest run.highest) &&
      Nat.ble other.first run.lowest && Nat.beq ((run.lowest - other.first) % 2) 1)

/-- A run covers the codes from its first to its last one that are in its stride. -/
theorem CaseRun.covers_iff {run : CaseRun} {code : Nat} :
    run.covers code = true ↔
      run.first ≤ code ∧ code ≤ run.last ∧ (code - run.first) % run.stride = 0 := by
  simp [covers, and_assoc]

/-- A run misses another in front of it, behind it, or between its codes. -/
theorem CaseRun.misses_iff {run other : CaseRun} :
    run.misses other = true ↔
      run.highest < other.first ∨ other.last < run.lowest ∨
        other.stride = 2 ∧ (run.stride = 2 ∨ run.lowest = run.highest) ∧
          other.first ≤ run.lowest ∧ (run.lowest - other.first) % 2 = 1 := by
  simp [misses, Nat.blt_eq, and_assoc, or_assoc]

/-- A code that is lowered by one run is not covered by a run that is missed. -/
theorem CaseRun.not_covers {run other : CaseRun} (misses : run.misses other = true) {code : Nat}
    (covers : run.covers code = true) : other.covers (code + run.shift).toNat = false := by
  obtain ⟨from_first, to_last, in_stride⟩ := covers_iff.mp covers
  rw [Bool.eq_false_iff]
  intro covered
  obtain ⟨other_first, other_last, other_stride⟩ := covers_iff.mp covered
  rcases misses_iff.mp misses with before | behind | ⟨two, every_second, inside, odd⟩
  · unfold highest at before
    omega
  · unfold lowest at behind
    omega
  · -- the distance from the first code of the other run is odd
    unfold lowest at every_second inside odd
    unfold highest at every_second
    rw [two] at other_stride
    rcases every_second with even | alone
    · rw [even] at in_stride
      omega
    · omega

/-- The dotted capital I, which is lowered by a rule of its own, as if it were a run. -/
def dottedRun : CaseRun :=
  ⟨0x0130, 0x0130, 1, 0⟩

/-- No run lowers a code to one that has a lower case. -/
theorem caseRuns_miss {run other : CaseRun} (mem : run ∈ caseRuns)
    (other_mem : other ∈ dottedRun :: caseRuns) : run.misses other = true := by
  have all_miss : caseRuns.all (fun run => (dottedRun :: caseRuns).all run.misses) = true := by
    decide +kernel
  exact List.all_eq_true.mp (List.all_eq_true.mp all_miss run mem) other other_mem

/-! ## Characters that stay -/

/-- A character that stays when a text is lowered, wherever it stands in the text. -/
structure IsLow (c : Char) : Prop where
  noSigma : c ≠ 'Σ'
  lowered : lowerChar c = [c]

/-- The sigma inside a word stays when it is lowered. -/
theorem sigma_isLow : IsLow 'σ' := ⟨by decide, by decide⟩

/-- So does the sigma at the end of a word. -/
theorem final_sigma_isLow : IsLow 'ς' := ⟨by decide, by decide⟩

/-- A capital sigma is lowered to one of the two. -/
theorem lowerSigma_isLow (before after : List Char) : IsLow (lowerSigma before after) := by
  unfold lowerSigma
  split
  · exact final_sigma_isLow
  · exact sigma_isLow

/-- A character that no run covers stays, unless it is the dotted capital I. -/
theorem isLow_of_not_covered {c : Char}
    (h : ∀ run ∈ dottedRun :: caseRuns, run.covers c.toNat = false) : IsLow c := by
  obtain ⟨not_dotted, not_covered⟩ := List.forall_mem_cons.mp h
  refine ⟨?_, ?_⟩
  · rintro rfl
    have sigma_covered : caseRuns.any (fun run => run.covers 'Σ'.toNat) = true := by decide
    obtain ⟨run, mem, covered⟩ := List.any_eq_true.mp sigma_covered
    exact Bool.false_ne_true ((not_covered run mem).symm.trans covered)
  · have no_dot : c ≠ '\u0130' := by
      rintro rfl
      exact absurd not_dotted (by decide)
    have no_run : caseRuns.find? (fun run => run.covers c.toNat) = none := by
      rw [List.find?_eq_none]
      intro run mem
      simp [not_covered run mem]
    rw [lowerChar, if_neg no_dot, no_run]

/-- What a character is lowered to stays. -/
theorem lowerChar_isLow (c : Char) : ∀ d ∈ lowerChar c, IsLow d := by
  unfold lowerChar
  split
  · intro d mem
    obtain rfl | rfl : d = 'i' ∨ d = '\u0307' := by simpa using mem
    · exact ⟨by decide, by decide⟩
    · exact ⟨by decide, by decide⟩
  · next no_dot =>
    split
    · next run found =>
      have covers : run.covers c.toNat = true := by simpa using List.find?_some found
      have mem_runs := List.mem_of_find?_eq_some found
      intro d mem
      obtain rfl := List.mem_singleton.mp mem
      by_cases valid : (c.toNat + run.shift).toNat.isValidChar
      · apply isLow_of_not_covered
        intro other other_mem
        rw [Char.ofNat, dif_pos valid]
        exact CaseRun.not_covers (caseRuns_miss mem_runs other_mem) covers
      · rw [Char.ofNat, dif_neg valid]
        exact ⟨by decide, by decide⟩
    · next missing =>
      intro d mem
      obtain rfl := List.mem_singleton.mp mem
      apply isLow_of_not_covered
      refine List.forall_mem_cons.mpr ⟨?_, ?_⟩
      · rw [Bool.eq_false_iff]
        intro dotted
        obtain ⟨least, greatest, -⟩ := CaseRun.covers_iff.mp dotted
        have code : d.toNat = 0x0130 := Nat.le_antisymm greatest least
        exact no_dot (Char.toNat_inj.mp code)
      · intro run mem_runs
        simpa using List.find?_eq_none.mp missing run mem_runs

/-! ## Texts that stay -/

/-- A lowered text has no characters that do not stay. -/
theorem lowerFrom_isLow {done : List Char} (low : ∀ d ∈ done, IsLow d) (before cs : List Char) :
    ∀ d ∈ lowerFrom done before cs, IsLow d := by
  induction cs generalizing done before with
  | nil =>
    intro d mem
    exact low d (List.mem_reverse.mp mem)
  | cons c cs ih =>
    rw [lowerFrom]
    split
    · exact ih (List.forall_mem_cons.mpr ⟨lowerSigma_isLow before cs, low⟩) (c :: before)
    · refine ih (fun d mem => ?_) (c :: before)
      rcases List.mem_append.mp mem with mem | mem
      · exact lowerChar_isLow c d (List.mem_reverse.mp mem)
      · exact low d mem

/-- Characters that stay are lowered to themselves. -/
theorem lowerFrom_of_low (done before : List Char) {cs : List Char} (low : ∀ c ∈ cs, IsLow c) :
    lowerFrom done before cs = done.reverse ++ cs := by
  induction cs generalizing done before with
  | nil => simp [lowerFrom]
  | cons c cs ih =>
    obtain ⟨first, rest⟩ := List.forall_mem_cons.mp low
    rw [lowerFrom, if_neg first.noSigma, first.lowered, ih _ _ rest]
    simp

/-- A text in lower case is its own lower case. -/
theorem lowercase_lowercase (text : String) : lowercase (lowercase text) = lowercase text := by
  have low : ∀ c ∈ lowerChars text.toList, IsLow c :=
    lowerFrom_isLow (fun d mem => absurd mem List.not_mem_nil) [] text.toList
  have stays : lowerChars (lowerChars text.toList) = lowerChars text.toList :=
    lowerFrom_of_low [] [] low
  unfold lowercase
  rw [String.toList_ofList, stays]

end Lipogram.Text

namespace Lipogram

/-- What a mode stands for stands for itself in the same mode. -/
theorem Mode.output_output (mode : Mode) (text : String) :
    mode.output (mode.output text) = mode.output text := by
  cases mode with
  | basic => rfl
  | advanced => exact Text.lowercase_lowercase text

/-- An encoding depends on nothing but the text that it stands for. -/
theorem encode_of_output_eq {mode : Mode} {text other : String}
    (h : mode.output text = mode.output other) : encode mode text = encode mode other := by
  rw [encode_eq_text, encode_eq_text, encodeExpr_eq_sum, encodeExpr_eq_sum, h]

/-- Encoding again what an encoding evaluates to changes nothing; so a text has the same advanced
encoding as its lower case. -/
theorem encode_again (mode : Mode) (text : String) :
    (∃ u, evaluateText (encode mode text) = .ok u ∧ encode mode u = encode mode text) ∧
      encode .advanced text = encode .advanced (Text.lowercase text) := by
  constructor
  · have value : evaluateText (encode mode text) = .ok (mode.output text) := by
      rw [evaluateText_eq_ok]
      exact evaluate_encode mode text
    exact ⟨mode.output text, value, encode_of_output_eq (mode.output_output text)⟩
  · have lowered := Mode.output_output .advanced text
    exact encode_of_output_eq lowered.symm

end Lipogram
