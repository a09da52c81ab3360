import Lipogram.CommandLine.Reader
import Lipogram.Proofs.DecoderSteps
import Lipogram.Proofs.Demonstrating
import Lipogram.Proofs.Verifying
import Lipogram.Settings.Document

/-!
# Runs of the two programs

A run of either program writes all or nothing: what can go wrong goes wrong before anything is
written. What the encoder has written, the decoder takes back to the text that the encoding stands
for, unless the path of the file is read as a call for help. Both hold in any surroundings, and
whatever reads the command line and the settings.
-/

set_option autoImplicit false

namespace Lipogram

open Simulation
open Surroundings (view)

/-! ## Ends of runs -/

namespace Simulation

variable {σ : Type} [Host (Simulation σ)] {s t : σ}

/-- How a program ends that has carried out a step: with an exit code, and with a report if the step
has failed. -/
def ended : Except Failure Unit × σ → Nat × σ
  | (.ok (), t) => (0, t)
  | (.error failure, t) => (1, (runIn t (Host.report failure.report)).2)

/-- A program that carries out a step and looks at its outcome ends by it. -/
theorem runIn_ended (s : σ) (step : ExceptT Failure (Simulation σ) Unit) :
    runIn s (do
        match ← step.run with
        | .ok () => pure 0
        | .error failure =>
          Host.report failure.report
          pure 1) = ended (attempt s step) := by
  rw [runIn_bind, attempt]
  rcases runIn s step.run with ⟨_ | _, t⟩ <;> rfl

/-- A program ends well if its step succeeds. -/
theorem ended_of_ok {outcome : Except Failure Unit × σ} (h : outcome.1 = .ok ()) :
    (ended outcome).1 = 0 := by
  obtain ⟨result, t⟩ := outcome
  subst h
  rfl

/-- A program ends well only if its step has succeeded. -/
theorem succeeds_of_ended {outcome : Except Failure Unit × σ} (h : (ended outcome).1 = 0) :
    outcome = (.ok (), (ended outcome).2) := by
  obtain ⟨failure | _, t⟩ := outcome
  · exact absurd h Nat.one_ne_zero
  · rfl

variable [Surroundings σ] {step : ExceptT Failure (Simulation σ) Unit} {failure : Failure}

/-- A program that ends badly has only reported the failure of its step. -/
theorem ended_unwritten {outcome : Except Failure Unit × σ}
    (clean : ∀ failure t, outcome = (.error failure, t) → Unwritten s t)
    (h : (ended outcome).1 ≠ 0) : Unwritten s (ended outcome).2 := by
  obtain ⟨failure | _, t⟩ := outcome
  · have reported : Unwritten t (runIn t (Host.report failure.report)).2 :=
      .of_eq (Surroundings.view_report t failure.report)
    exact (clean failure t rfl).trans reported
  · exact absurd rfl h

/-- A step that becomes a failure writes nothing. -/
theorem Becomes.unwritten {e : Failure} (h : Becomes Unwritten s step (throw e))
    (failed : attempt s step = (.error failure, t)) : Unwritten s t := by
  obtain ⟨u, quiet, same⟩ := h
  rw [same, attempt_throw] at failed
  rw [← (Prod.mk.inj failed).2]
  exact quiet

/-- A step that prints does not fail. -/
theorem Prints.succeeds {text : String} (h : Prints s step text) :
    attempt s step ≠ (.error failure, t) := by
  obtain ⟨u, printed, -⟩ := h
  simp [printed]

/-- A step that writes a text or fails writes nothing if it fails. -/
theorem Writes.unwritten {text? : Option String} (h : Writes s step text?)
    (failed : attempt s step = (.error failure, t)) : Unwritten s t := by
  cases h with
  | text printed => exact absurd failed printed.succeeds
  | failure threw => exact threw.unwritten failed

end Simulation

/-! ## The encoder -/

namespace EncodeProgram

variable {σ : Type} [Host (Simulation σ)] {s : σ} {setup : Setup} {args : List String}
  {line : CommandLine}

/-- A run with a command line that is understood ends as what the line asks for. -/
theorem run_line (h : setup.readArgs args = .ok line) :
    runIn s (run setup args) = ended (attempt s (carryOut setup line)) := by
  simp only [run, h]
  exact runIn_ended s _

variable [Surroundings σ]

/-- Whatever the command, when it fails nothing has been written. -/
theorem carryOut_unwritten {failure : Failure} {t : σ}
    (failed : attempt s (carryOut setup line) = (.error failure, t)) : Unwritten s t := by
  cases command : line.command with
  | encode request =>
    rcases carryOut_encode s setup command with ⟨settings, text, -, -, u, quiet, same⟩ | ⟨e, threw⟩
    · -- the only step that is left to fail is the one that writes
      rw [same] at failed
      exact quiet.trans (untouched_of_error failed)
    · exact threw.unwritten failed
  | numeral n =>
    simp only [carryOut, command] at failed
    cases written : Lipogram.numeral n with
    | ok source =>
      simp only [written] at failed
      exact absurd failed (prints_print s _).succeeds
    | error e =>
      simp only [written] at failed
      exact (becomes_refl asides_unwritten s _).unwritten failed
  | demonstrate =>
    simp only [carryOut, command] at failed
    obtain ⟨lines, -, prints⟩ := demonstrate_prints s line.verbose
    exact absurd failed prints.succeeds
  | version =>
    simp only [carryOut, command] at failed
    exact absurd failed (prints_print s _).succeeds

/-- A run that does not succeed has written nothing. -/
theorem run_unwritten (failed : (runIn s (run setup args)).1 ≠ 0) :
    Unwritten s (runIn s (run setup args)).2 := by
  cases understood : setup.readArgs args with
  | ok line =>
    rw [run_line understood] at failed ⊢
    exact ended_unwritten (fun _ _ => carryOut_unwritten) failed
  | error answer =>
    -- only misuse is a failure, which is told; what is asked to be shown is a success
    cases answer with
    | misuse text =>
      simp only [run, understood]
      exact .of_eq (Surroundings.view_report s text)
    | notice text =>
      simp only [run, understood] at failed
      exact absurd rfl failed

/-- A run that encodes and succeeds has delivered the encoding of the text that it is about, and
done nothing else. -/
theorem run_encode {request : EncodeRequest} (h : setup.readArgs args = .ok line)
    (command : line.command = .encode request) (succeeded : (runIn s (run setup args)).1 = 0) :
    ∃ settings text, (view s).Grants setup line.config settings ∧
      (view s).Offers request text ∧
      (view s).Delivers (view (runIn s (run setup args)).2) request.output
        (encode (request.mode.getD settings.mode) text) := by
  rw [run_line h] at succeeded ⊢
  have done := succeeds_of_ended succeeded
  rcases carryOut_encode s setup command with
    ⟨settings, text, granted, offered, t, quiet, same⟩ | ⟨e, t, quiet, same⟩
  · rw [same] at done ⊢
    exact ⟨settings, text, granted, offered, (delivers_of_ok done).of_untouched quiet⟩
  · -- a run that fails before the delivery does not end well
    rw [same, attempt_throw] at done
    simp at done

end EncodeProgram

/-! ## The decoder -/

namespace DecodeProgram

variable {σ : Type} [Host (Simulation σ)] {s : σ} {call : List String} {text : String}

/-- A run of the decoder ends as what its arguments ask for. -/
theorem run_carryOut (s : σ) (call : List String) :
    runIn s (run call) = ended (attempt s (carryOut call)) :=
  runIn_ended s _

/-- A call for help fails. -/
theorem run_help (s : σ) (h : ¬WantsNoHelp call) : (runIn s (run call)).1 = 1 := by
  have asked : call = ["-h"] ∨ call = ["--help"] := by
    simpa only [WantsNoHelp, not_and_or, not_not] using h
  rcases asked with rfl | rfl <;> rfl

variable [Surroundings σ]

/-- A run that does not succeed has written nothing. -/
theorem run_unwritten (failed : (runIn s (run call)).1 ≠ 0) :
    Unwritten s (runIn s (run call)).2 := by
  rw [run_carryOut] at failed ⊢
  exact ended_unwritten (fun _ _ => (carryOut_writes s call).unwritten) failed

/-- A call succeeds, and writes a text to the output. -/
def Decodes (s : σ) (call : List String) (text : String) : Prop :=
  (runIn s (run call)).1 = 0 ∧
    (view (runIn s (run call)).2).output = (view s).output ++ text

/-- A call of the decoder decodes to the text that it gives, and to no other. -/
theorem decodes_iff : Decodes s call text ↔ decoded? s call = some text := by
  have writes := carryOut_writes s call
  unfold Decodes
  rw [run_carryOut]
  cases given : decoded? s call with
  | some shown =>
    rw [given] at writes
    cases writes with
    | text printed =>
      obtain ⟨t, printed, written⟩ := printed
      have output : (view t).output = (view s).output ++ shown := written.output
      rw [printed]
      constructor
      · intro h
        -- both texts stand behind the same output
        exact congrArg some ((String.append_right_inj _).mp (output.symm.trans h.2))
      · intro h
        cases h
        exact ⟨rfl, output⟩
  | none =>
    rw [given] at writes
    cases writes with
    | failure threw =>
      obtain ⟨t, -, failed⟩ := threw
      rw [failed]
      constructor
      · intro h
        exact absurd h.1 Nat.one_ne_zero
      · intro h
        simp at h

/-- A call that leads to a source, and is no call for help, decodes to what the source evaluates
to. -/
theorem decodes_iff_evaluates {source : String} (fed : Feeds s call source)
    (no_help : WantsNoHelp call) : Decodes s call text ↔ evaluateText source = .ok text := by
  rw [decodes_iff, decoded_of_feeds fed no_help, toOption_eq_some]

end DecodeProgram

/-! ## Main results -/

/-- What is delivered of an encoding evaluates to the text that the encoding stands for. -/
theorem evaluateText_delivery (output : Option String) (mode : Mode) (text : String) :
    evaluateText (EncodeProgram.delivery output (encode mode text)) = .ok (mode.output text) := by
  have evaluated : evaluateText (encode mode text) = .ok (mode.output text) :=
    evaluateText_eq_ok.mpr (evaluate_encode mode text)
  cases output with
  | none => exact evaluateText_line.mpr evaluated
  | some path => exact evaluated

/-- A run of either program writes all or nothing. If it does not succeed, the output and the files
are as before. If the encoder succeeds with a text to encode, it has delivered the encoding and done
nothing else, also where the file that is written is the one that the text or the settings were read
from. -/
theorem runs_write_all_or_nothing {σ : Type} [Host (Simulation σ)] [Surroundings σ]
    (setup : EncodeProgram.Setup) (s : σ) (args : List String) :
    let encoded := runIn s (EncodeProgram.run setup args)
    let decoded := runIn s (DecodeProgram.run args)
    (encoded.1 ≠ 0 → (view s).Untouched (view encoded.2)) ∧
      (decoded.1 ≠ 0 → (view s).Untouched (view decoded.2)) ∧
      ∀ line request, setup.readArgs args = .ok line → line.command = .encode request →
        encoded.1 = 0 → ∃ settings text, (view s).Grants setup line.config settings ∧
          (view s).Offers request text ∧
          (view s).Delivers (view encoded.2) request.output
            (encode (request.mode.getD settings.mode) text) := by
  intro encoded decoded
  refine ⟨?_, ?_, ?_⟩
  · exact EncodeProgram.run_unwritten
  · exact DecodeProgram.run_unwritten
  · intro line request understood command succeeded
    exact EncodeProgram.run_encode understood command succeeded

/-- Where there are no files: a negative numeral and a request for help leave all as it was, and the
encoding of a letter is written as a line. -/
theorem runs_write_all_or_nothing_letter :
    let setup : EncodeProgram.Setup := ⟨CommandLine.read, Settings.ofYaml, none⟩
    let w : World := ⟨⟨[]⟩, [], .empty, "", ""⟩
    w.view.Untouched (runIn w (EncodeProgram.run setup ["numeral", "-1"])).2.view ∧
      w.view.Untouched (runIn w (DecodeProgram.run ["--help"])).2.view ∧
      (runIn w (EncodeProgram.run setup ["encode", "a", "-m", "basic"])).2.output =
        "" ++ (encode .basic "a" ++ "\n") := by
  intro setup w
  have negative := (runs_write_all_or_nothing setup w ["numeral", "-1"]).1
  have help := (runs_write_all_or_nothing setup w ["--help"]).2.1
  have letter := (runs_write_all_or_nothing setup w ["encode", "a", "-m", "basic"]).2.2
    ⟨false, none, .encode ⟨some "a", none, some .basic, none, false⟩⟩ _ rfl rfl (by decide +kernel)
  obtain ⟨settings, text, -, rfl, delivered⟩ := letter
  exact ⟨negative (by decide +kernel), help (by decide +kernel), delivered.output⟩

/-- The decoder takes back what the encoder has written, from the output or from a file: it writes
the text that the encoding stands for, to the last character. It does the same for every source that
evaluates to a text, and for no other: the blanks that it trims never count. A call for help is no
such call, even if a file stands under these words. -/
theorem decoder_inverts_encoder (σ τ : Type) [Host (Simulation σ)] [Surroundings σ]
    [Host (Simulation τ)] [Surroundings τ] :
    (∀ (setup : EncodeProgram.Setup) (s : σ) (args : List String) (line : CommandLine)
        (request : EncodeRequest), setup.readArgs args = .ok line →
        line.command = .encode request → (runIn s (EncodeProgram.run setup args)).1 = 0 →
        ∃ settings text, (view s).Grants setup line.config settings ∧
          (view s).Offers request text ∧
          let mode := request.mode.getD settings.mode
          let written := EncodeProgram.delivery request.output (encode mode text)
          (view s).Shows (view (runIn s (EncodeProgram.run setup args)).2) request.output written ∧
            ∀ (t : τ) (call : List String), DecodeProgram.Feeds t call written →
              DecodeProgram.WantsNoHelp call → DecodeProgram.Decodes t call (mode.output text)) ∧
      (∀ (t : τ) (call : List String) (source text : String), DecodeProgram.Feeds t call source →
        DecodeProgram.WantsNoHelp call →
        (DecodeProgram.Decodes t call text ↔ evaluateText source = .ok text)) ∧
      ∀ (t : τ) (call : List String), ¬DecodeProgram.WantsNoHelp call →
        (runIn t (DecodeProgram.run call)).1 = 1 ∧
          (view t).Untouched (view (runIn t (DecodeProgram.run call)).2) := by
  refine ⟨?_, ?_, ?_⟩
  · intro setup s args line request understood command succeeded
    obtain ⟨settings, text, granted, offered, delivered⟩ :=
      EncodeProgram.run_encode understood command succeeded
    refine ⟨settings, text, granted, offered, EncodeProgram.shows_of_delivers delivered, ?_⟩
    intro t call fed no_help
    exact (DecodeProgram.decodes_iff_evaluates fed no_help).mpr (evaluateText_delivery _ _ _)
  · intro t call source text fed no_help
    exact DecodeProgram.decodes_iff_evaluates fed no_help
  · intro t call help
    have failed := DecodeProgram.run_help t help
    exact ⟨failed, DecodeProgram.run_unwritten (failed ▸ Nat.one_ne_zero)⟩

/-- Where there are no files: a letter is encoded, and decoded from the line that this has
written. -/
theorem decoder_inverts_encoder_letter :
    let setup : EncodeProgram.Setup := ⟨CommandLine.read, Settings.ofYaml, none⟩
    let w : World := ⟨⟨[]⟩, [], .empty, "", ""⟩
    let written := encode .basic "a" ++ "\n"
    (runIn w (EncodeProgram.run setup ["encode", "a", "-m", "basic"])).2.output = "" ++ written ∧
      DecodeProgram.Decodes { w with input := written.toUTF8 } [] "a" ∧
      evaluateText written = .ok "a" ∧ (runIn w (DecodeProgram.run ["-h"])).1 = 1 := by
  intro setup w written
  obtain ⟨encoded, decoded, helped⟩ := decoder_inverts_encoder World World
  have fed : DecodeProgram.Feeds { w with input := written.toUTF8 } [] written :=
    DecodeProgram.feeds_input rfl
  have no_help : DecodeProgram.WantsNoHelp [] := by simp [DecodeProgram.WantsNoHelp]
  have letter := encoded setup w ["encode", "a", "-m", "basic"]
    ⟨false, none, .encode ⟨some "a", none, some .basic, none, false⟩⟩ _ rfl rfl (by decide +kernel)
  obtain ⟨settings, text, -, rfl, shown, taken⟩ := letter
  have decodes := taken _ [] fed no_help
  have help := (helped w ["-h"] (by simp [DecodeProgram.WantsNoHelp])).1
  exact ⟨shown, decodes, (decoded _ [] written "a" fed no_help).mp decodes, help⟩

/-- The encoder also writes to files whose paths the decoder takes for a call for help: it does not
decode these. -/
theorem decoder_inverts_encoder_unread :
    let setup : EncodeProgram.Setup := ⟨CommandLine.read, Settings.ofYaml, none⟩
    let w : World := ⟨⟨[]⟩, [], .empty, "", ""⟩
    let encoded := runIn w (EncodeProgram.run setup ["encode", "a", "-m", "basic", "--output=-h"])
    encoded.1 = 0 ∧ encoded.2.view.Holds "-h" (encode .basic "a") ∧
      DecodeProgram.Feeds encoded.2 ["-h"] (encode .basic "a") ∧
      ¬DecodeProgram.Decodes encoded.2 ["-h"] "a" := by
  intro setup w encoded
  let request : EncodeRequest := ⟨some "a", none, some .basic, some "-h", false⟩
  let line : CommandLine := ⟨false, none, .encode request⟩
  have understood : setup.readArgs ["encode", "a", "-m", "basic", "--output=-h"] = .ok line := rfl
  have located : w.files.locate w.workplace "-h" = .ok ["-h"] := by
    have parts : "-h".splitOn "/" = ["-h"] := by
      -- no part of the path ends at its two characters, only at its end
      have first : "-h".splitOn "/" = "-h".splitOnAux "/" 0 ⟨1⟩ 0 [] := by
        rw [String.splitOn, if_neg (by decide), String.splitOnAux]
        rfl
      have second : "-h".splitOnAux "/" 0 ⟨1⟩ 0 [] = "-h".splitOnAux "/" 0 ⟨2⟩ 0 [] := by
        rw [String.splitOnAux]
        rfl
      have last : "-h".splitOnAux "/" 0 ⟨2⟩ 0 [] = ["-h"] := by
        rw [String.splitOnAux]
        rfl
      rw [first, second, last]
    have bytes : "-h".utf8ByteSize = 2 := by decide +kernel
    simp [w, FileTree.locate, parts, bytes, FileTree.walk, FileTree.what?, FileTree.longestPath,
      FileTree.longestName]
  have succeeded : encoded.1 = 0 := by
    -- nothing stands where the file is to be written, so the delivery succeeds
    have becomes : Becomes World.Told w (EncodeProgram.carryOut setup line)
        (EncodeProgram.deliver line.verbose request.output (encode .basic "a")) :=
      EncodeProgram.carryOut_given World.asides_told w rfl rfl rfl rfl
    obtain ⟨t, ⟨said, rfl⟩, same⟩ := becomes
    have free : (w.telling said).files.what? ["-h"] ≠ some .directory := by
      simp [w, World.telling, FileTree.what?]
    have written := World.writeText_succeeds (w := w.telling said) located free
    have delivered := EncodeProgram.deliver_file_succeeds (written (encode .basic "a")) line.verbose
    have ends : encoded = ended (attempt w (EncodeProgram.carryOut setup line)) :=
      EncodeProgram.run_line understood
    rw [ends, same]
    exact ended_of_ok delivered
  obtain ⟨settings, text, -, rfl, delivered⟩ := EncodeProgram.run_encode understood rfl succeeded
  have held : encoded.2.view.Holds "-h" (encode .basic "a") := delivered.holds
  refine ⟨succeeded, held, DecodeProgram.feeds_file held, ?_⟩
  intro decoded
  have help : ¬DecodeProgram.WantsNoHelp ["-h"] := by simp [DecodeProgram.WantsNoHelp]
  have failed := DecodeProgram.run_help encoded.2 help
  exact absurd (decoded.1.symm.trans failed) Nat.zero_ne_one

end Lipogram
