import Lipogram.Host
import Mathlib.Tactic.SplitIfs

/-!
# Writing files

A file that is written stands where its path leads to, and nothing else has changed
(`what_write`). The path still leads there, so the content is read back at it (`read_write`).
-/

set_option autoImplicit false

namespace Lipogram

/-- Bytes are a text exactly if they encode it. -/
theorem decodeText_eq_ok {bytes : ByteArray} {text : String} :
    decodeText bytes = .ok text ↔ bytes = text.toUTF8 := by
  unfold decodeText String.fromUTF8?
  by_cases valid : bytes.IsValidUTF8
  · rw [dif_pos valid]
    constructor
    · intro h
      rw [← Except.ok.inj h]
      rfl
    · rintro rfl
      rfl
  · rw [dif_neg valid]
    constructor
    · intro h
      simp at h
    · rintro rfl
      exact absurd text.isValidUTF8 valid

namespace FileTree

variable {tree after : FileTree} {base place : Place} {path : String} {content : ByteArray}

/-- What it takes to write a file, and what the tree is then. -/
theorem write_eq_ok (h : tree.write base path content = .ok after) :
    ∃ place, tree.locate base path = .ok place ∧ tree.what? place ≠ some .directory ∧
      after = tree.put place (.file content) := by
  unfold write at h
  cases located : tree.locate base path with
  | error e => simp [located] at h
  | ok place =>
    simp only [located] at h
    split at h
    · simp at h
    · next no_directory => exact ⟨place, rfl, no_directory, (Except.ok.inj h).symm⟩

/-- Where no directory stands is not the root. -/
theorem ne_root (h : tree.what? place ≠ some .directory) : place ≠ [] := by
  rintro rfl
  exact h rfl

/-- A path leads on to the same place when a file is put there: no directory on the way is replaced
by it. -/
theorem walk_put (no_directory : tree.what? place ≠ some .directory) {start : Place}
    {parts : List String} (h : tree.walk start parts = .ok place) :
    (tree.put place (.file content)).walk start parts = .ok place := by
  induction parts generalizing start with
  | nil => exact h
  | cons part parts ih =>
    rw [walk] at h ⊢
    cases found : tree.what? start with
    | none => simp [found] at h
    | some entry =>
      cases entry with
      | file old => simp [found] at h
      | directory =>
        -- the walk is in a directory here, and the place holds none
        have other : start ≠ place := by
          rintro rfl
          exact no_directory found
        have still : (tree.put place (.file content)).what? start = some .directory := by
          rw [what_put tree place start _ (ne_root no_directory), if_neg other, found]
        simp only [found] at h
        simp only [still]
        split_ifs at h ⊢
        · exact ih h
        · exact ih h
        · exact ih h

/-- A path leads to the same place after a file has been put there. -/
theorem locate_put (no_directory : tree.what? place ≠ some .directory)
    (h : tree.locate base path = .ok place) :
    (tree.put place (.file content)).locate base path = .ok place := by
  unfold locate at h ⊢
  split_ifs at h ⊢
  · exact walk_put no_directory h
  · exact walk_put no_directory h

/-- A file that is written stands at its place, and all else is as before. -/
theorem what_write (h : tree.write base path content = .ok after) :
    ∃ place, tree.locate base path = .ok place ∧ after.what? place = some (.file content) ∧
      ∀ other, other ≠ place → after.what? other = tree.what? other := by
  obtain ⟨place, located, no_directory, rfl⟩ := write_eq_ok h
  have put (other : Place) := what_put tree place other (.file content) (ne_root no_directory)
  refine ⟨place, located, ?_, fun other differs => ?_⟩
  · rw [put, if_pos rfl]
  · rw [put, if_neg differs]

/-- A file that is written is read back. -/
theorem read_write (h : tree.write base path content = .ok after) :
    after.read base path = .ok content := by
  obtain ⟨place, located, no_directory, rfl⟩ := write_eq_ok h
  have stands := what_put tree place place (.file content) (ne_root no_directory)
  rw [if_pos rfl] at stands
  unfold read
  simp only [locate_put no_directory located, stands]

end FileTree

end Lipogram
