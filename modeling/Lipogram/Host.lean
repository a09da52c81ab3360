import Lipogram.Files

/-!
# What a program asks of its surroundings

The programs of this library run in any monad that offers files, an input and two outputs. One such
monad is a world in memory (`World`), in which the effect of a run is a value.
-/

set_option autoImplicit false

namespace Lipogram

/-- How closely a run is followed: events that are always told, and details. -/
inductive Level where
  | info
  | debug
  deriving DecidableEq

/-- Something that happens in a run: where in the program, what, and with which data. -/
structure Event where
  level : Level
  teller : String
  message : String
  data : List (String × String)

/-- The services that a program uses. -/
class Host (m : Type → Type) where
  /-- Whether a path leads to a file or directory. -/
  hasPath : String → m Bool
  /-- The text of the file that a path leads to. -/
  readText : String → m (Except FileError String)
  /-- Makes a text the content of the file that a path leads to. -/
  writeText : String → String → m (Except FileError Unit)
  /-- The whole input. -/
  readInput : m (Except FileError String)
  /-- Writes to the output. -/
  print : String → m Unit
  /-- Writes to the output for messages. -/
  report : String → m Unit
  /-- Lets an event be known, in whatever wording; `verbose` asks for details as well. -/
  tell : (verbose : Bool) → Event → m Unit

/-- Why a program fails: what it could not do, and what lies behind that, if anything does. -/
structure Failure where
  summary : String
  cause : Option String

/-- What is reported of a failure. -/
def Failure.report (f : Failure) : String :=
  match f.cause with
  | none => "Error: " ++ f.summary ++ "\n"
  | some cause => "Error: " ++ f.summary ++ "\n\nCaused by:\n    " ++ cause ++ "\n"

/-- The line that stands for an event among messages, if it is asked for. -/
def Event.line (e : Event) (verbose : Bool) : String :=
  let shown := e.data.map (fun datum => " " ++ datum.1 ++ "=" ++ datum.2)
  let text := e.teller ++ ": " ++ e.message ++ String.join shown ++ "\n"
  match e.level with
  | .info => " INFO " ++ text
  | .debug => if verbose then "DEBUG " ++ text else ""

/-- A world in memory: a tree of files, the place in it where paths begin, the input, and what has
been written to the two outputs. -/
structure World where
  files : FileTree
  workplace : Place
  input : ByteArray
  output : String
  messages : String

/-- Runs of programs in memory, in surroundings of some type. -/
abbrev Simulation (σ : Type) := StateM σ

instance : Host (Simulation World) where
  hasPath path := do
    let w ← get
    pure (w.files.has w.workplace path)
  readText path := do
    let w ← get
    pure (match w.files.read w.workplace path with
      | .ok bytes => decodeText bytes
      | .error e => .error e)
  writeText path text := do
    let w ← get
    match w.files.write w.workplace path text.toUTF8 with
    | .ok files =>
      set { w with files := files }
      pure (.ok ())
    | .error e => pure (.error e)
  readInput := do
    pure (decodeText (← get).input)
  print text := modify (fun w => { w with output := w.output ++ text })
  report text := modify (fun w => { w with messages := w.messages ++ text })
  tell verbose event := modify (fun w => { w with messages := w.messages ++ event.line verbose })

end Lipogram
