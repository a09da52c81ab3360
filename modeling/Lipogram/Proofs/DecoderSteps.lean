import Lipogram.Proofs.Surroundings
import Lipogram.Proofs.Trimming

/-!
# Steps of the decoder

What the decoder's steps come to in any surroundings. A call that leads to a source which evaluates
to a text writes that text; any other call fails, with nothing written.
-/

set_option autoImplicit false

namespace Lipogram.DecodeProgram

open Simulation
open Surroundings (view)

variable {σ : Type} [Host (Simulation σ)]

/-! ## Calls -/

/-- What is read for a call: the content of the file, or else the input. -/
def content (s : σ) (path : Option String) : Except FileError String :=
  match path with
  | some path => (runIn s (Host.readText path)).1
  | none => (runIn s Host.readInput).1

/-- A call leads to a source: the input if it has no argument, and the content of a file if it has
the path of it for its only argument. -/
def Feeds (s : σ) (call : List String) (source : String) : Prop :=
  match call with
  | [] => content s none = .ok source
  | [path] => content s (some path) = .ok source
  | _ => False

/-- A call is no call for help. -/
def WantsNoHelp (call : List String) : Prop :=
  call ≠ ["-h"] ∧ call ≠ ["--help"]

/-- The text that is decoded from what is read, if there is one. -/
def decodedFrom? (s : σ) (path : Option String) : Option String :=
  (content s path).toOption.bind (fun source => (evaluateText source).toOption)

/-- The text that a call gives, if it gives one. -/
def decoded? (s : σ) (call : List String) : Option String :=
  match call with
  | [] => decodedFrom? s none
  | [arg] => if arg == "-h" || arg == "--help" then none else decodedFrom? s (some arg)
  | _ => none

/-- A call that leads to a source gives the text that the source evaluates to. -/
theorem decoded_of_feeds {s : σ} {call : List String} {source : String} (fed : Feeds s call source)
    (no_help : WantsNoHelp call) : decoded? s call = (evaluateText source).toOption := by
  have read {path : Option String} (h : content s path = .ok source) :
      decodedFrom? s path = (evaluateText source).toOption := by
    rw [decodedFrom?, h]
    rfl
  match call, fed with
  | [], input => exact read input
  | [path], file =>
    obtain ⟨no_short, no_long⟩ := no_help
    have no_request : ¬(path == "-h" || path == "--help") = true := by
      simpa using And.intro no_short no_long
    rw [decoded?, if_neg no_request]
    exact read file

/-- In a world, a call without an argument leads to the text of the input. -/
theorem feeds_input {w : World} {text : String} (h : w.input = text.toUTF8) : Feeds w [] text :=
  decodeText_eq_ok.mpr h

/-- In a world, a call with the path of a file leads to the text of the file. -/
theorem feeds_file {w : World} {path text : String} (h : w.view.Holds path text) :
    Feeds w [path] text := by
  show (runIn w (Host.readText path)).1 = .ok text
  rw [World.runIn_readText, World.read_of_holds h]
  exact decodeText_eq_ok.mpr rfl

/-! ## Steps -/

/-- Decoding with the blanks at its ends taken off gives the text that a source evaluates to. -/
theorem decode_toOption (source : String) :
    (decode source).toOption = (evaluateText source).toOption := by
  cases decoded : decode source with
  | ok text => rw [decode_eq_ok.mp decoded]
  | error problem =>
    cases evaluated : evaluateText source with
    | ok text =>
      -- trimming would have to spoil a source that evaluates to a text
      rw [decode_eq_ok.mpr evaluated] at decoded
      simp at decoded
    | error _ => rfl

variable [Surroundings σ]

/-- What is said of a source that cannot be read. -/
def unread (path : Option String) (e : FileError) : Failure :=
  match path with
  | some path => ⟨"Failed to read expression file " ++ Text.quoted path ++ ": " ++ e.message, none⟩
  | none => ⟨"Failed to read stdin: " ++ e.message, none⟩

/-- Reading a source becomes what is read, or fails. -/
theorem readSource_becomes (s : σ) (path : Option String) :
    Becomes Unwritten s (readSource path)
      (match content s path with
        | .ok source => pure source
        | .error e => throw (unread path e)) := by
  cases path with
  | some path => exact ((becomes_readText s path).imp (fun _ => SameView.unwritten)).bind
  | none => exact (becomes_readInput s).bind

/-- What is read is decoded and written, if it decodes to a text. -/
theorem decodeFrom_writes (s : σ) (path : Option String) :
    Writes s (decodeFrom path) (decodedFrom? s path) := by
  have read := readSource_becomes s path
  unfold decodedFrom?
  cases found : content s path with
  | error e =>
    rw [found] at read
    exact .failure read.bind_throw
  | ok source =>
    rw [found] at read
    show Writes s _ (evaluateText source).toOption
    rw [← decode_toOption]
    refine read.bind.writes (fun t _ => ?_)
    cases decode source with
    | ok text => exact .text (prints_print t text)
    | error problem => exact .failure (becomes_refl asides_unwritten t _)

/-- What a call comes to: the text that it gives is written, or it fails. -/
theorem carryOut_writes (s : σ) (call : List String) :
    Writes s (carryOut call) (decoded? s call) := by
  match call with
  | [] => exact decodeFrom_writes s none
  | [arg] =>
    simp only [decoded?, carryOut]
    split_ifs
    · exact .failure (becomes_refl asides_unwritten s _)
    · exact decodeFrom_writes s (some arg)
  | _ :: _ :: _ => exact .failure (becomes_refl asides_unwritten s _)

end Lipogram.DecodeProgram
