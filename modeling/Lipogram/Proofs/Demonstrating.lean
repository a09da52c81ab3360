import Lipogram.Proofs.EncoderSteps

/-!
# The demonstration

Every encoding that the demonstration makes evaluates, so it never stops halfway, and what it writes
part by part is its lines.
-/

set_option autoImplicit false

namespace Lipogram

/-! ## Lines -/

namespace Demonstration

/-- What is shown of a text in one mode. -/
def modeShown (mode : Mode) (text : String) : List String :=
  ["", mode.name ++ " encoding (" ++ toString (Encoding.alphabet (encode mode text)).length ++
      " chars):",
    "Code: " ++ encode mode text, "Result: " ++ Text.quoted (mode.output text)]

/-- What is shown of a text. -/
def sampleShown (text : String) : List String :=
  sampleHeading text ++ (Mode.all.map (fun mode => modeShown mode text)).flatten

/-- The lines for an encoding show the text that it stands for. -/
theorem modeLines_encode (mode : Mode) (text : String) :
    modeLines mode (encode mode text) = .ok (modeShown mode text) := by
  have evaluated : evaluateText (encode mode text) = .ok (mode.output text) :=
    evaluateText_eq_ok.mpr (evaluate_encode mode text)
  simp only [modeLines, evaluated, modeShown]

/-- The lines for a sample exist. -/
theorem sampleLines_eq (text : String) : sampleLines text = .ok (sampleShown text) := by
  simp only [sampleLines, modeLines_encode]
  rfl

/-- The lines for all of some samples exist. -/
theorem samples_lines_eq (texts : List String) :
    texts.mapM sampleLines = .ok (texts.map sampleShown) := by
  induction texts with
  | nil => rfl
  | cons text texts ih =>
    rw [List.mapM_cons, sampleLines_eq, ih]
    rfl

/-- The demonstration is its heading and what is shown of each sample. -/
theorem lines_eq : lines = .ok (heading ++ (samples.map sampleShown).flatten) := by
  rw [lines, samples_lines_eq]
  rfl

end Demonstration

/-! ## Showing them -/

namespace EncodeProgram

open Simulation Demonstration

/-- Lines behind each other are written behind each other. -/
theorem joinLines_append (lines more : List String) :
    joinLines (lines ++ more) = joinLines lines ++ joinLines more := by
  simp [joinLines]

/-- The lines of some items are written item by item. -/
theorem joinLines_flatten {α : Type} (shown : α → List String) (items : List α) :
    joinLines (items.map shown).flatten =
      String.join (items.map (fun a => joinLines (shown a))) := by
  induction items with
  | nil => rfl
  | cons a items ih =>
    rw [List.map_cons, List.flatten_cons, joinLines_append, ih, List.map_cons, String.join_cons]

variable {σ : Type} [Host (Simulation σ)] [Surroundings σ]

/-- Showing a sample in a mode writes what is shown of it. -/
theorem showMode_prints (s : σ) (verbose : Bool) (text : String) (mode : Mode) :
    Prints s (showMode verbose text mode) (joinLines (modeShown mode text)) := by
  unfold showMode
  refine (encodeTelling_becomes asides_unwritten s verbose mode text).bind.prints (fun t => ?_)
  rw [modeLines_encode]
  exact prints_print t _

/-- Showing a sample writes what is shown of it in both modes. -/
theorem showSample_prints (s : σ) (verbose : Bool) (text : String) :
    Prints s (showSample verbose text) (joinLines (sampleShown text)) := by
  unfold showSample sampleShown
  rw [joinLines_append, joinLines_flatten]
  refine (prints_print s _).bind (fun t => ?_)
  exact prints_for (fun mode t => showMode_prints t verbose text mode) Mode.all t

/-- Showing samples writes what is shown of each. -/
theorem showSamples_prints (s : σ) (verbose : Bool) (texts : List String) :
    Prints s (texts.forM (showSample verbose)) (joinLines (texts.map sampleShown).flatten) := by
  rw [joinLines_flatten]
  exact prints_for (fun text t => showSample_prints t verbose text) texts s

/-- The demonstration succeeds, and writes its lines. -/
theorem demonstrate_prints (s : σ) (verbose : Bool) :
    ∃ lines, Demonstration.lines = .ok lines ∧
      Prints s (demonstrate verbose) (joinLines lines) := by
  refine ⟨heading ++ (samples.map sampleShown).flatten, lines_eq, ?_⟩
  rw [joinLines_append]
  unfold demonstrate printLines
  exact (prints_print s (joinLines heading)).bind (fun t => showSamples_prints t verbose samples)

end EncodeProgram

end Lipogram
