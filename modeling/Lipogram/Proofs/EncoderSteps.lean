import Lipogram.EncodeProgram
import Lipogram.Proofs.RoundTrip
import Lipogram.Proofs.Surroundings
import Mathlib.Tactic.SplitIfs

/-!
# Steps of the encoder

What the encoder's steps come to in any surroundings. The settings and the text are what stands in
the surroundings of the run, or else the run fails; an encoding that is verified is delivered as it
is without being verified; and nothing is written before the delivery, which is the last step.
-/

set_option autoImplicit false

namespace Lipogram

/-! ## Surroundings of a run -/

namespace View

variable {Spot : Type}

/-- A request is about a text: one that is given with it, the content of the file it names, or else
the input. -/
def Offers (v : View Spot) (request : EncodeRequest) (text : String) : Prop :=
  match request.text, request.file with
  | some given, _ => text = given
  | none, some path => v.Holds path text
  | none, none => v.input = text.toUTF8

/-- The path of the file that settings are read from: the given one, or else the one in the user's
directory, if there is one. -/
def settingsFile (v : View Spot) (home given : Option String) : Option String :=
  given.or ((home.map (· ++ "/pydurf/config.yaml")).filter v.leads)

/-- The settings of a run: those in the file, or the standard ones without a file. -/
def Grants (v : View Spot) (setup : EncodeProgram.Setup) (given : Option String)
    (settings : Settings) : Prop :=
  match v.settingsFile setup.configHome given with
  | none => settings = Settings.standard
  | some path => ∃ text, v.Holds path text ∧
      Settings.parse setup.readSettings text = .ok settings

/-- What it is to deliver a source: to the file that is asked for, and nowhere else, or as a line to
the output, with no file changed. -/
def Delivers (v after : View Spot) (output : Option String) (source : String) : Prop :=
  match output with
  | none => (v.printing (source ++ "\n")).Untouched after
  | some path => v.Written after path source

/-- A text is what a run has left behind at the target of a delivery: the content of the file, or
what has been added to the output. -/
def Shows (v after : View Spot) (output : Option String) (text : String) : Prop :=
  match output with
  | none => after.output = v.output ++ text
  | some path => after.Holds path text

/-- A delivery in a view that is untouched is a delivery in the earlier one. -/
theorem Delivers.of_untouched {v w after : View Spot} {output : Option String} {source : String}
    (same : v.Untouched w) (h : w.Delivers after output source) :
    v.Delivers after output source := by
  cases output with
  | none => exact (same.printing _).trans h
  | some path => exact Written.of_untouched same h

end View

namespace EncodeProgram

open Simulation
open Surroundings (view)

/-- What is delivered of an expression: a line on the output, the expression alone in a file. -/
def delivery (output : Option String) (source : String) : String :=
  match output with
  | none => source ++ "\n"
  | some _ => source

/-- What has been delivered is found at the target of the delivery. -/
theorem shows_of_delivers {Spot : Type} {v after : View Spot} {output : Option String}
    {source : String} (h : v.Delivers after output source) :
    v.Shows after output (delivery output source) := by
  cases output with
  | none => exact h.output
  | some path => exact View.Written.holds h

variable {σ : Type} [Host (Simulation σ)] {R : σ → σ → Prop} {s : σ}

/-! ## Steps that tell -/

section

variable (asides : Asides R)
include asides

/-- Telling what has been done becomes nothing. -/
theorem inform_becomes (s : σ) (verbose : Bool) (message : String)
    (data : List (String × String)) : Becomes R s (inform verbose message data) (pure ()) :=
  becomes_tell asides s verbose _

/-- Telling a detail becomes nothing. -/
theorem detail_becomes (s : σ) (verbose : Bool) (teller message : String)
    (data : List (String × String)) : Becomes R s (detail verbose teller message data) (pure ()) :=
  becomes_tell asides s verbose _

/-- Encoding with details becomes the encoding. -/
theorem encodeTelling_becomes (s : σ) (verbose : Bool) (mode : Mode) (text : String) :
    Becomes R s (encodeTelling verbose mode text) (pure (encode mode text)) := by
  unfold encodeTelling
  cases mode <;> exact (detail_becomes asides s verbose _ _ _).bind

end

/-! ## Verification -/

/-- Verification compares the texts that two encodings stand for. -/
theorem verify_encode (mode mode' : Mode) (text other : String) :
    verify (encode mode text) mode' other =
      if mode.output text = mode'.output other then .ok ()
      else .error (.otherText (mode'.output other) (mode.output text)) := by
  have evaluated : evaluateText (encode mode text) = .ok (mode.output text) :=
    evaluateText_eq_ok.mpr (evaluate_encode mode text)
  simp only [verify, evaluated]

section

variable (asides : Asides R)
include asides

/-- Verifying the encoding of a text becomes nothing. -/
theorem verifyTelling_becomes (s : σ) (verbose : Bool) (mode : Mode) (text : String) :
    Becomes R s (verifyTelling verbose (encode mode text) mode text) (pure ()) := by
  unfold verifyTelling
  rw [verify_encode, if_pos rfl]
  exact inform_becomes asides s verbose "verified" []

/-- Encoding a text becomes the delivery of its encoding, verified or not. -/
theorem encodeText_becomes (s : σ) (verbose : Bool) (settings : Settings)
    (request : EncodeRequest) (text : String) :
    Becomes R s (encodeText verbose settings request text)
      (deliver verbose request.output (encode (request.mode.getD settings.mode) text)) := by
  unfold encodeText
  refine (encodeTelling_becomes asides s verbose _ text).bind.trans asides (fun t _ => ?_)
  refine (inform_becomes asides t verbose _ _).bind.trans asides (fun u _ => ?_)
  split_ifs
  · exact (verifyTelling_becomes asides u verbose _ text).bind
  · exact becomes_refl asides u _

/-- Without settings anywhere, the encoding of a text on the command line becomes its delivery. -/
theorem carryOut_given (s : σ) {setup : Setup} {line : CommandLine} {request : EncodeRequest}
    {text : String} (command : line.command = .encode request) (given : request.text = some text)
    (config : line.config = none) (home : setup.configHome = none) :
    Becomes R s (carryOut setup line)
      (deliver line.verbose request.output
        (encode (request.mode.getD Settings.standard.mode) text)) := by
  simp only [carryOut, command, config, loadSettings, settingsPath, home, encodeRequest,
    readSubject, given, pure_bind, bind_assoc]
  exact (detail_becomes asides s line.verbose _ _ _).bind.trans asides
    (fun t _ => encodeText_becomes asides t line.verbose Settings.standard request text)

/-! ## What is read -/

/-- A result that may be missing settles on what holds of it. -/
theorem orFail_settles {α : Type} {holds : α → Prop} (s : σ) (summary : String)
    {result : Except FileError α} (h : ∀ a, result = .ok a → holds a) :
    Settles R s (orFail summary result) holds := by
  cases result with
  | ok a => exact settles_pure asides s (h a rfl)
  | error e => exact settles_throw asides s _

end

variable [Surroundings σ]

/-- The path of the settings is the given one, or the one in the user's directory. -/
theorem settingsPath_settles (s : σ) (home given : Option String) :
    Settles SameView s (settingsPath home given) ((view s).settingsFile home given = ·) := by
  have asides : Asides (SameView : σ → σ → Prop) := asides_sameView
  unfold settingsPath
  -- a given path must lead somewhere; the standard one is passed over if it does not
  cases given with
  | some path =>
    refine (becomes_hasPath s path).bind.settles asides (fun t _ => ?_)
    split
    · exact settles_pure asides t rfl
    · exact settles_throw asides t _
  | none =>
    cases home with
    | none => exact settles_pure asides s rfl
    | some dir =>
      refine (becomes_hasPath s _).bind.settles asides (fun t _ => ?_)
      split_ifs with there
      · exact settles_pure asides t (by simp [View.settingsFile, there])
      · exact settles_pure asides t (by simp [View.settingsFile, there])

/-- The settings of a run are those that stand in its surroundings. -/
theorem loadSettings_settles (s : σ) (setup : Setup) (verbose : Bool) (given : Option String) :
    Settles SameView s (loadSettings setup verbose given) ((view s).Grants setup given) := by
  have asides : Asides (SameView : σ → σ → Prop) := asides_sameView
  unfold loadSettings
  refine (settingsPath_settles s setup.configHome given).bind asides (fun file same t seen => ?_)
  cases file with
  | none =>
    refine (detail_becomes asides t verbose _ _ _).bind.settles asides
      (fun u _ => settles_pure asides u ?_)
    simp [View.Grants, same]
  | some path =>
    refine (becomes_readText t path).bind.settles asides (fun u _ => ?_)
    have settles := orFail_settles asides u ("Failed to read config from " ++ Text.quoted path)
      (fun text read => Surroundings.readText_ok t path text read)
    refine settles.bind asides (fun text read v _ => ?_)
    cases parsed : Settings.parse setup.readSettings text with
    | error e => exact settles_throw asides v _
    | ok settings =>
      refine (detail_becomes asides v verbose _ _ _).bind.settles asides
        (fun x _ => settles_pure asides x ?_)
      have held : (view s).Holds path text := seen ▸ read
      simp only [View.Grants, same]
      exact ⟨text, held, parsed⟩

/-- The text that is encoded is the one that the request is about. -/
theorem readSubject_settles (s : σ) (request : EncodeRequest) :
    Settles Unwritten s (readSubject request) ((view s).Offers request) := by
  have asides : Asides (Unwritten : σ → σ → Prop) := asides_unwritten
  obtain ⟨text, file, mode, output, verify⟩ := request
  unfold readSubject
  cases text with
  | some text => exact settles_pure asides s rfl
  | none =>
    cases file with
    | some path =>
      have asked := (becomes_readText s path).imp (fun _ => SameView.unwritten)
      refine asked.bind.settles asides (fun t _ => ?_)
      exact orFail_settles asides t _ (fun text read => Surroundings.readText_ok s path text read)
    | none =>
      refine (becomes_readInput s).bind.settles asides (fun t _ => ?_)
      exact orFail_settles asides t _ (fun text read => Surroundings.readInput_ok s text read)

/-! ## What is written -/

/-- What becomes of a delivery to a file: the file is written, and this is told, or the delivery
fails where the writing does. -/
theorem attempt_deliver_file (s : σ) (verbose : Bool) (path source : String) :
    (∃ t, (runIn s (Host.writeText path source)).1 = .ok () ∧
        SameView (runIn s (Host.writeText path source)).2 t ∧
        attempt s (deliver verbose (some path) source) = (.ok (), t)) ∨
      ∃ e failure, (runIn s (Host.writeText path source)).1 = .error e ∧
        attempt s (deliver verbose (some path) source) =
          (.error failure, (runIn s (Host.writeText path source)).2) := by
  simp only [deliver, attempt_bind, attempt_lift]
  cases written : (runIn s (Host.writeText path source)).1 with
  | ok done =>
    refine .inl ⟨_, rfl, ?_, rfl⟩
    exact Surroundings.view_tell _ verbose _
  | error e => exact .inr ⟨e, _, rfl, rfl⟩

/-- A delivery to a file succeeds if the file is written. -/
theorem deliver_file_succeeds {path source : String}
    (written : (runIn s (Host.writeText path source)).1 = .ok ()) (verbose : Bool) :
    (attempt s (deliver verbose (some path) source)).1 = .ok () := by
  rcases attempt_deliver_file s verbose path source with
    ⟨t, -, -, delivered⟩ | ⟨e, failure, refused, -⟩
  · rw [delivered]
  · rw [written] at refused
    simp at refused

/-- A delivery that succeeds is one to the file alone, or to the output alone. -/
theorem delivers_of_ok {verbose : Bool} {output : Option String} {source : String} {t : σ}
    (h : attempt s (deliver verbose output source) = (.ok (), t)) :
    (view s).Delivers (view t) output source := by
  cases output with
  | none =>
    obtain ⟨u, printed, written⟩ := prints_print s (source ++ "\n")
    obtain rfl : u = t := (Prod.mk.inj (printed.symm.trans h)).2
    exact written
  | some path =>
    rcases attempt_deliver_file s verbose path source with
      ⟨u, done, seen, delivered⟩ | ⟨e, failure, -, failed⟩
    · obtain rfl : u = t := (Prod.mk.inj (delivered.symm.trans h)).2
      have written := Surroundings.writeText_ok s path source done
      rw [← seen] at written
      exact written
    · rw [failed] at h
      simp at h

/-- A delivery that fails changes nothing. -/
theorem untouched_of_error {verbose : Bool} {output : Option String} {source : String} {t : σ}
    {failure : Failure} (h : attempt s (deliver verbose output source) = (.error failure, t)) :
    (view s).Untouched (view t) := by
  cases output with
  | none =>
    obtain ⟨u, printed, -⟩ := prints_print s (source ++ "\n")
    have succeeded := printed.symm.trans h
    simp at succeeded
  | some path =>
    rcases attempt_deliver_file s verbose path source with
      ⟨u, -, -, delivered⟩ | ⟨e, failure, refused, failed⟩
    · rw [delivered] at h
      simp at h
    · obtain rfl := (Prod.mk.inj (failed.symm.trans h)).2
      exact .of_eq (Surroundings.writeText_error s path source e refused)

/-- What an encoding comes to that is asked for on a command line: it is delivered, or the run has
failed before. -/
theorem carryOut_encode (s : σ) (setup : Setup) {line : CommandLine} {request : EncodeRequest}
    (command : line.command = .encode request) :
    (∃ settings text, (view s).Grants setup line.config settings ∧
        (view s).Offers request text ∧
        Becomes Unwritten s (carryOut setup line)
          (deliver line.verbose request.output
            (encode (request.mode.getD settings.mode) text))) ∨
      ∃ e, Becomes Unwritten s (carryOut setup line) (throw e) := by
  have asides : Asides (Unwritten : σ → σ → Prop) := asides_unwritten
  have opened : carryOut (m := Simulation σ) setup line = (do
      let settings ← loadSettings setup line.verbose line.config
      encodeRequest line.verbose settings request) := by
    simp only [carryOut, command]
  rw [opened]
  -- the settings are loaded, then the text is read; either may fail, and neither writes
  rcases loadSettings_settles s setup line.verbose line.config with
    ⟨settings, granted, loaded⟩ | ⟨e, failure⟩
  · have reached : Becomes SameView s
        (loadSettings setup line.verbose line.config >>= fun settings =>
          encodeRequest line.verbose settings request)
        (encodeRequest line.verbose settings request) := loaded.bind
    obtain ⟨t, seen, same⟩ := reached
    have quiet : Unwritten s t := SameView.unwritten seen
    rcases readSubject_settles t request with ⟨text, offered, read⟩ | ⟨e, failure⟩
    · rw [seen] at offered
      have delivered := read.bind.trans asides
        (fun u _ => encodeText_becomes asides u line.verbose settings request text)
      obtain ⟨u, further, done⟩ := delivered
      exact .inl ⟨settings, text, granted, offered, u, quiet.trans further, same.trans done⟩
    · have failed : Becomes Unwritten t (encodeRequest line.verbose settings request) (throw e) :=
        failure.bind_throw
      obtain ⟨u, further, threw⟩ := failed
      exact .inr ⟨e, u, quiet.trans further, same.trans threw⟩
  · exact .inr ⟨e, failure.bind_throw.imp (fun _ => SameView.unwritten)⟩

end EncodeProgram

end Lipogram
