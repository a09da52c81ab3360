import Lipogram.Proofs.EncoderSteps

/-!
# Verification

Verification is exact: it accepts an encoding for a text if both stand for the same text, and only
then. So it never refuses an encoding that the encoder has just made, and a run that verifies writes
what the same run writes that does not.
-/

set_option autoImplicit false

namespace Lipogram

open Simulation

/-! ## What runs show -/

namespace World

/-- The world with more messages told in it. -/
def telling (w : World) (said : String) : World :=
  { w with messages := w.messages ++ said }

/-- Worlds that differ in nothing but more messages in the second. -/
def Told (w v : World) : Prop :=
  ∃ said, v = w.telling said

/-- What is told shows in nothing but messages. -/
theorem asides_told : Asides Told where
  refl w := ⟨"", by simp [telling]⟩
  trans first second := by
    obtain ⟨said, rfl⟩ := first
    obtain ⟨more, rfl⟩ := second
    exact ⟨said ++ more, by simp [telling, String.append_assoc]⟩
  tell w verbose event := ⟨event.line verbose, rfl⟩

/-- Two results that differ in nothing but messages: the outcomes, the outputs and the files are the
same. -/
def Alike {α : Type} (a b : Except Failure α × World) : Prop :=
  a.1 = b.1 ∧ a.2.output = b.2.output ∧ a.2.files = b.2.files

variable {α : Type} {a b c : Except Failure α × World}

/-- Results are alike in either order. -/
theorem Alike.symm (h : Alike a b) : Alike b a :=
  ⟨h.1.symm, h.2.1.symm, h.2.2.symm⟩

/-- Results that are like the same result are alike. -/
theorem Alike.trans (h : Alike a b) (h' : Alike b c) : Alike a c :=
  ⟨h.1.trans h'.1, h.2.1.trans h'.2.1, h.2.2.trans h'.2.2⟩

end World

namespace EncodeProgram

open World

/-! ## Deliveries -/

/-- What is said of a file that cannot be written. -/
def undelivered (path : String) (e : FileError) : Failure :=
  ⟨"Failed to write output file: " ++ Text.quoted path, some e.message⟩

/-- What is told of a file that has been written. -/
def delivered (path : String) : Event :=
  ⟨.info, "pydurf", "wrote expression", [("path", Text.quoted path)]⟩

/-- A delivery to a file in a world writes it and tells so, or changes nothing. -/
theorem deliver_file (w : World) (verbose : Bool) (path source : String) :
    attempt w (deliver verbose (some path) source) =
      match w.files.write w.workplace path source.toUTF8 with
      | .ok files => (.ok (), ({ w with files := files } : World).telling
          ((delivered path).line verbose))
      | .error e => (.error (undelivered path e), w) := by
  simp only [deliver, attempt_bind, attempt_lift, runIn_writeText]
  cases w.files.write w.workplace path source.toUTF8 <;> rfl

/-- The outcome of a delivery, and what it writes, do not depend on the messages before it. -/
theorem deliver_told {w v : World} (told : Told w v) (verbose : Bool) (output : Option String)
    (source : String) :
    Alike (attempt v (deliver verbose output source))
      (attempt w (deliver verbose output source)) := by
  obtain ⟨said, rfl⟩ := told
  cases output with
  | none => exact ⟨rfl, rfl, rfl⟩
  | some path =>
    have files : (w.telling said).files = w.files := rfl
    have workplace : (w.telling said).workplace = w.workplace := rfl
    rw [deliver_file, deliver_file, files, workplace]
    cases w.files.write w.workplace path source.toUTF8 <;> exact ⟨rfl, rfl, rfl⟩

/-! ## Requests -/

variable (w : World) (verbose : Bool) (settings : Settings) (request : EncodeRequest)

/-- Whatever makes it verify, the encoding of a text comes to the same. -/
theorem encodeText_verified (text : String) :
    Alike (attempt w (encodeText verbose settings request text))
      (attempt w (encodeText verbose { settings with verify := false }
        { request with verify := false } text)) := by
  obtain ⟨v, told, same⟩ := encodeText_becomes asides_told w verbose settings request text
  obtain ⟨v', told', same'⟩ := encodeText_becomes asides_told w verbose
    { settings with verify := false } { request with verify := false } text
  rw [same, same']
  exact (deliver_told told verbose _ _).trans (deliver_told told' verbose _ _).symm

/-- Whatever makes it verify, a request comes to the same. -/
theorem encodeRequest_verified :
    Alike (attempt w (encodeRequest verbose settings request))
      (attempt w (encodeRequest verbose { settings with verify := false }
        { request with verify := false })) := by
  have subject : readSubject (m := Simulation World) { request with verify := false } =
      readSubject request := rfl
  unfold encodeRequest
  rw [subject, attempt_bind, attempt_bind]
  generalize attempt w (readSubject request) = read
  obtain ⟨result, v⟩ := read
  cases result with
  | error e => exact ⟨rfl, rfl, rfl⟩
  | ok text => exact encodeText_verified v verbose settings request text

/-- Verification is exact, and shows in nothing but messages: an encoding is verified for a text
exactly if both stand for the same text, and is told apart from it otherwise; the step that verifies
what the encoder has made never fails, and a request that is verified has the outcome, the output
and the files that it has without. -/
theorem verification_exact_transparent :
    (∀ (mode mode' : Mode) (text other : String),
        (verify (encode mode text) mode' other = .ok () ↔
          mode.output text = mode'.output other) ∧
        (mode.output text = mode'.output other ∨ ∃ mismatch,
          verify (encode mode text) mode' other = .error mismatch ∧
            mismatch.message = "Verification failed: expected " ++
              Text.quoted (mode'.output other) ++ ", expression gives " ++
              Text.quoted (mode.output text))) ∧
      (∀ (w : World) (verbose : Bool) (mode : Mode) (text : String),
        Becomes Told w (verifyTelling verbose (encode mode text) mode text) (pure ())) ∧
      ∀ (w : World) (verbose : Bool) (settings : Settings) (request : EncodeRequest),
        let verified := attempt w (encodeRequest verbose settings request)
        let plain := attempt w (encodeRequest verbose { settings with verify := false }
          { request with verify := false })
        verified.1 = plain.1 ∧ verified.2.output = plain.2.output ∧
          verified.2.files = plain.2.files := by
  refine ⟨fun mode mode' text other => ?_, verifyTelling_becomes asides_told,
    encodeRequest_verified⟩
  have compared := verify_encode mode mode' text other
  by_cases same : mode.output text = mode'.output other
  · rw [if_pos same] at compared
    exact ⟨⟨fun _ => same, fun _ => compared⟩, .inl same⟩
  · rw [if_neg same] at compared
    refine ⟨⟨fun accepted => ?_, fun h => absurd h same⟩, .inr ⟨_, compared, rfl⟩⟩
    rw [compared] at accepted
    simp at accepted

end EncodeProgram

end Lipogram
