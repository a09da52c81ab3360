import Lipogram.Proofs.FileTrees
import Lipogram.Proofs.Outcomes
import Lipogram.Proofs.Runs

/-!
# Surroundings of programs

What is known of the surroundings that a program runs in, whatever they are: what can be seen of
them (`View`), and that each service does what it says or fails, and nothing else that can be seen
(`Surroundings`). Reading and writing may fail for any reason; a service that fails leaves no trace.
Worlds in memory are surroundings of this kind.
-/

set_option autoImplicit false

namespace Lipogram

/-! ## Views -/

/-- What can be seen of surroundings: the spots that paths lead to, what stands at a spot, the input
that has not been read, and what has been written to the output. Messages are not seen. -/
structure View (Spot : Type) where
  spot? : String → Option Spot
  what? : Spot → Option Entry
  input : ByteArray
  output : String

namespace View

variable {Spot : Type}

/-- A path leads to a file with a text. -/
def Holds (v : View Spot) (path text : String) : Prop :=
  ∃ spot, v.spot? path = some spot ∧ v.what? spot = some (.file text.toUTF8)

/-- Whether a path leads to a file or directory. -/
def leads (v : View Spot) (path : String) : Bool :=
  ((v.spot? path).bind v.what?).isSome

/-- The view with more text written to the output. -/
def printing (v : View Spot) (text : String) : View Spot :=
  { v with output := v.output ++ text }

/-- Nothing has been written on the way from one view to another: the output and all files are as
they were, and paths lead where they led. -/
structure Untouched (v after : View Spot) : Prop where
  spots : after.spot? = v.spot?
  files : after.what? = v.what?
  output : after.output = v.output

/-- A text has been written to the file that a path leads to, and nothing else has been written. -/
structure Written (v after : View Spot) (path text : String) : Prop where
  target : ∃ spot, v.spot? path = some spot ∧ after.spot? path = some spot ∧
    after.what? spot = some (.file text.toUTF8) ∧
    ∀ other, other ≠ spot → after.what? other = v.what? other
  output : after.output = v.output

/-- What is untouched since a view is untouched since an earlier one that was. -/
theorem Untouched.trans {v w after : View Spot} (h : v.Untouched w) (h' : w.Untouched after) :
    v.Untouched after where
  spots := h'.spots.trans h.spots
  files := h'.files.trans h.files
  output := h'.output.trans h.output

/-- A view is untouched since an equal one. -/
theorem Untouched.of_eq {v after : View Spot} (h : after = v) : v.Untouched after := by
  subst h
  exact ⟨rfl, rfl, rfl⟩

/-- What is untouched is untouched with more output on both sides. -/
theorem Untouched.printing {v after : View Spot} (h : v.Untouched after) (text : String) :
    (v.printing text).Untouched (after.printing text) where
  spots := h.spots
  files := h.files
  output := congrArg (· ++ text) h.output

/-- Printing two texts is printing the first with the second behind it. -/
theorem printing_printing (v : View Spot) (text more : String) :
    (v.printing text).printing more = v.printing (text ++ more) := by
  simp [printing, String.append_assoc]

/-- A file that has been written holds the text. -/
theorem Written.holds {v after : View Spot} {path text : String}
    (h : v.Written after path text) : after.Holds path text := by
  obtain ⟨spot, -, still, content, -⟩ := h.target
  exact ⟨spot, still, content⟩

/-- Between untouched views, the same is written. -/
theorem Written.of_untouched {v w after : View Spot} {path text : String}
    (same : v.Untouched w) (h : w.Written after path text) : v.Written after path text := by
  obtain ⟨⟨spot, leads, still, content, others⟩, output⟩ := h
  rw [same.spots] at leads
  rw [same.files] at others
  exact ⟨⟨spot, leads, still, content, others⟩, output.trans same.output⟩

end View

/-! ## Surroundings -/

open Simulation

/-- Surroundings in which every service does what it says or fails, and nothing else that can be
seen. -/
class Surroundings (σ : Type) [Host (Simulation σ)] where
  /-- The spots that files and directories may stand at. -/
  Spot : Type
  /-- What can be seen in a state. -/
  view : σ → View Spot
  /-- Asking whether a path leads anywhere gives the answer. -/
  hasPath_eq : ∀ s path, (runIn s (Host.hasPath path)).1 = (view s).leads path
  /-- Asking whether a path leads anywhere changes nothing. -/
  view_hasPath : ∀ s path, view (runIn s (Host.hasPath path)).2 = view s
  /-- A text that is read is the content of the file. -/
  readText_ok : ∀ s path text, (runIn s (Host.readText path)).1 = .ok text →
    (view s).Holds path text
  /-- Reading a file changes nothing. -/
  view_readText : ∀ s path, view (runIn s (Host.readText path)).2 = view s
  /-- A text that is read from the input is all of it. -/
  readInput_ok : ∀ s text, (runIn s Host.readInput).1 = .ok text → (view s).input = text.toUTF8
  /-- Reading the input writes nothing. -/
  readInput_untouched : ∀ s, (view s).Untouched (view (runIn s Host.readInput).2)
  /-- A text that is written is the content of the file from then on. -/
  writeText_ok : ∀ s path text, (runIn s (Host.writeText path text)).1 = .ok () →
    (view s).Written (view (runIn s (Host.writeText path text)).2) path text
  /-- Writing a file changes nothing if it fails. -/
  writeText_error : ∀ s path text e, (runIn s (Host.writeText path text)).1 = .error e →
    view (runIn s (Host.writeText path text)).2 = view s
  /-- Printing writes a text to the output. -/
  view_print : ∀ s text, view (runIn s (Host.print text)).2 = (view s).printing text
  /-- Reporting is not seen. -/
  view_report : ∀ s text, view (runIn s (Host.report text)).2 = view s
  /-- Telling an event is not seen. -/
  view_tell : ∀ s verbose event, view (runIn s (Host.tell verbose event)).2 = view s

/-! ## Worlds in memory -/

namespace World

/-- What can be seen of a world. -/
def view (w : World) : View Place where
  spot? path := (w.files.locate w.workplace path).toOption
  what? := w.files.what?
  input := w.input
  output := w.output

/-- Whether a path leads anywhere is seen in a world. -/
theorem has_eq_leads (w : World) (path : String) :
    w.files.has w.workplace path = w.view.leads path := by
  have spot : w.view.spot? path = (w.files.locate w.workplace path).toOption := rfl
  rw [FileTree.has, View.leads, spot]
  cases w.files.locate w.workplace path <;> rfl

/-- A file that is read stands where its path leads to. -/
theorem holds_of_read {w : World} {path text : String}
    (h : w.files.read w.workplace path = .ok text.toUTF8) : w.view.Holds path text := by
  unfold FileTree.read at h
  cases located : w.files.locate w.workplace path with
  | error e => simp [located] at h
  | ok place =>
    simp only [located] at h
    split at h
    · next content found =>
      obtain rfl := Except.ok.inj h
      exact ⟨place, toOption_eq_some.mpr located, found⟩
    · simp at h
    · simp at h

/-- A file that stands where a path leads to is what is read. -/
theorem read_of_holds {w : World} {path text : String} (h : w.view.Holds path text) :
    w.files.read w.workplace path = .ok text.toUTF8 := by
  obtain ⟨place, leads, content⟩ := h
  have located : w.files.locate w.workplace path = .ok place := toOption_eq_some.mp leads
  have found : w.files.what? place = some (.file text.toUTF8) := content
  simp only [FileTree.read, located, found]

/-- A file that is written stands where its path leads to, and the path leads there still. -/
theorem written_of_write {w : World} {path text : String} {files : FileTree}
    (h : w.files.write w.workplace path text.toUTF8 = .ok files) :
    w.view.Written { w with files := files }.view path text := by
  obtain ⟨place, located, content, others⟩ := FileTree.what_write h
  have still : files.locate w.workplace path = .ok place := by
    obtain ⟨place', located', no_directory, rfl⟩ := FileTree.write_eq_ok h
    obtain rfl := Except.ok.inj (located.symm.trans located')
    exact FileTree.locate_put no_directory located
  have leads := toOption_eq_some.mpr located
  exact ⟨⟨place, leads, toOption_eq_some.mpr still, content, others⟩, rfl⟩

/-- What reading a file comes to in a world. -/
theorem runIn_readText (w : World) (path : String) :
    runIn w (Host.readText path) = ((w.files.read w.workplace path).bind decodeText, w) := by
  show (_, w) = _
  cases w.files.read w.workplace path <;> rfl

/-- What writing a file comes to in a world. -/
theorem runIn_writeText (w : World) (path text : String) :
    runIn w (Host.writeText path text) =
      match w.files.write w.workplace path text.toUTF8 with
      | .ok files => (.ok (), { w with files := files })
      | .error e => (.error e, w) := by
  have asked : runIn w (Host.writeText path text) =
      runIn w (match w.files.write w.workplace path text.toUTF8 with
        | .ok files => do
          set { w with files := files }
          pure (.ok ())
        | .error e => pure (.error e) : Simulation World (Except FileError Unit)) := rfl
  rw [asked]
  cases w.files.write w.workplace path text.toUTF8 <;> rfl

/-- A file is written wherever a path leads to, unless a directory stands there. -/
theorem writeText_succeeds {w : World} {path : String} {place : Place}
    (located : w.files.locate w.workplace path = .ok place)
    (free : w.files.what? place ≠ some .directory) (text : String) :
    (runIn w (Host.writeText path text)).1 = .ok () := by
  have written : w.files.write w.workplace path text.toUTF8 =
      .ok (w.files.put place (.file text.toUTF8)) := by
    simp only [FileTree.write, located]
  rw [runIn_writeText, written]

instance : Surroundings World where
  Spot := Place
  view := view
  hasPath_eq w path := has_eq_leads w path
  view_hasPath _ _ := rfl
  readText_ok w path text h := by
    rw [runIn_readText] at h
    obtain ⟨bytes, read, decoded⟩ := bind_eq_ok.mp h
    rw [decodeText_eq_ok.mp decoded] at read
    exact holds_of_read read
  view_readText w path := by rw [runIn_readText]
  readInput_ok _ _ h := decodeText_eq_ok.mp h
  readInput_untouched _ := .of_eq rfl
  writeText_ok w path text h := by
    rw [runIn_writeText] at h ⊢
    cases written : w.files.write w.workplace path text.toUTF8 with
    | ok files => exact written_of_write written
    | error e =>
      rw [written] at h
      simp at h
  writeText_error w path text e h := by
    rw [runIn_writeText] at h ⊢
    cases written : w.files.write w.workplace path text.toUTF8 with
    | ok files =>
      rw [written] at h
      simp at h
    | error e => rfl
  view_print _ _ := rfl
  view_report _ _ := rfl
  view_tell _ _ _ := rfl

end World

/-! ## Steps in surroundings -/

variable {σ : Type} [Host (Simulation σ)] [Surroundings σ]

open Surroundings (view)

/-- States of which the same can be seen. -/
def SameView (s t : σ) : Prop :=
  view t = view s

/-- States between which nothing has been written. -/
def Unwritten (s t : σ) : Prop :=
  (view s).Untouched (view t)

/-- What is told is not seen. -/
theorem asides_sameView : Asides (SameView : σ → σ → Prop) where
  refl _ := rfl
  trans first second := Eq.trans second first
  tell s verbose event := Surroundings.view_tell s verbose event

/-- What is told is not written. -/
theorem asides_unwritten : Asides (Unwritten : σ → σ → Prop) where
  refl _ := .of_eq rfl
  trans first second := first.trans second
  tell s verbose event := .of_eq (Surroundings.view_tell s verbose event)

namespace Simulation

variable {α : Type} {s : σ}

/-- Asking whether a path leads anywhere becomes the answer. -/
theorem becomes_hasPath (s : σ) (path : String) :
    Becomes SameView s (ExceptT.lift (Host.hasPath path)) (pure ((view s).leads path)) := by
  rw [← Surroundings.hasPath_eq]
  exact becomes_lift (Surroundings.view_hasPath s path)

/-- Reading a file becomes what is read. -/
theorem becomes_readText (s : σ) (path : String) :
    Becomes SameView s (ExceptT.lift (Host.readText path))
      (pure (runIn s (Host.readText path)).1) :=
  becomes_lift (Surroundings.view_readText s path)

/-- Reading the input becomes what is read. -/
theorem becomes_readInput (s : σ) :
    Becomes Unwritten s (ExceptT.lift Host.readInput) (pure (runIn s Host.readInput).1) :=
  becomes_lift (Surroundings.readInput_untouched s)

/-- Where the same is seen, nothing has been written. -/
theorem SameView.unwritten {s t : σ} (h : SameView s t) : Unwritten s t :=
  .of_eq h

/-! ## Steps that write to the output -/

/-- A step succeeds and writes a text to the output, and nothing else. -/
def Prints (s : σ) (step : ExceptT Failure (Simulation σ) Unit) (text : String) : Prop :=
  ∃ t, attempt s step = (.ok (), t) ∧ ((view s).printing text).Untouched (view t)

/-- Printing writes its text to the output. -/
theorem prints_print (s : σ) (text : String) :
    Prints s (ExceptT.lift (Host.print text)) text :=
  ⟨_, rfl, .of_eq (Surroundings.view_print s text)⟩

/-- A step writes what the step that it becomes writes. -/
theorem Becomes.prints {first second : ExceptT Failure (Simulation σ) Unit} {text : String}
    (h : Becomes Unwritten s first second) (rest : ∀ t, Prints t second text) :
    Prints s first text := by
  obtain ⟨t, same_files, same⟩ := h
  obtain ⟨u, printed, written⟩ := rest t
  exact ⟨u, same.trans printed, (same_files.printing text).trans written⟩

/-- A chain of steps writes the texts of both, one behind the other. -/
theorem Prints.bind {first second : ExceptT Failure (Simulation σ) Unit} {text more : String}
    (h : Prints s first text) (rest : ∀ t, Prints t second more) :
    Prints s (first >>= fun _ => second) (text ++ more) := by
  obtain ⟨t, printed, written⟩ := h
  obtain ⟨u, printed', written'⟩ := rest t
  refine ⟨u, ?_, ?_⟩
  · rw [attempt_bind, printed]
    exact printed'
  · rw [← View.printing_printing]
    exact (written.printing more).trans written'

/-- A loop writes the texts of its turns. -/
theorem prints_for {step : α → ExceptT Failure (Simulation σ) Unit} {text : α → String}
    (h : ∀ (a : α) (s : σ), Prints s (step a) (text a)) (items : List α) (s : σ) :
    Prints s (items.forM step) (String.join (items.map text)) := by
  induction items generalizing s with
  | nil =>
    refine ⟨s, rfl, ⟨rfl, rfl, ?_⟩⟩
    simp [View.printing]
  | cons a items ih =>
    rw [List.map_cons, String.join_cons]
    exact (h a s).bind ih

/-- A step writes a text to the output, or fails if there is no text, with nothing written. -/
inductive Writes (s : σ) (step : ExceptT Failure (Simulation σ) Unit) : Option String → Prop
  | text {text : String} (h : Prints s step text) : Writes s step (some text)
  | failure {e : Failure} (h : Becomes Unwritten s step (throw e)) : Writes s step none

/-- A step writes what the step that it becomes writes, or fails as it does. -/
theorem Becomes.writes {first second : ExceptT Failure (Simulation σ) Unit}
    {text? : Option String} (h : Becomes Unwritten s first second)
    (rest : ∀ t, Unwritten s t → Writes t second text?) : Writes s first text? := by
  obtain ⟨t, same_files, same⟩ := h
  cases rest t same_files with
  | text printed =>
    obtain ⟨u, printed, written⟩ := printed
    exact .text ⟨u, same.trans printed, (same_files.printing _).trans written⟩
  | failure threw =>
    obtain ⟨u, further, threw⟩ := threw
    exact .failure ⟨u, same_files.trans further, same.trans threw⟩

end Simulation

end Lipogram
