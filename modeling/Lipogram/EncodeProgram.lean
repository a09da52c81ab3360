import Lipogram.CommandLine
import Lipogram.Demonstration
import Lipogram.Host
import Lipogram.Settings

/-!
# The encoder as a program

The encoder reads a text, writes its encoding, and tells what it does. It loads its settings before
it reads the text, and writes only after nothing can go wrong any more but the writing itself. How
arguments and settings are read is given from outside.
-/

set_option autoImplicit false

namespace Lipogram.EncodeProgram

/-- What the program is set up with: a reader of command lines, a reader of settings that are not
blank, and the directory of the user's settings. -/
structure Setup where
  readArgs : List String → Except Answer CommandLine
  readSettings : String → Except String Settings
  configHome : Option String

/-- The name and version of the program. -/
def versionLine : String := "pydurf 0.1.0"

/-- Lines as a text. -/
def joinLines (lines : List String) : String :=
  String.join (lines.map (· ++ "\n"))

section

variable {m : Type → Type} [Monad m] [Host m]

/-- Steps of the program. -/
abbrev Step (m : Type → Type) := ExceptT Failure m

/-- Tells what has been done. -/
def inform (verbose : Bool) (message : String) (data : List (String × String)) : Step m Unit :=
  ExceptT.lift (Host.tell verbose ⟨.info, "pydurf", message, data⟩)

/-- Tells a detail. -/
def detail (verbose : Bool) (teller message : String) (data : List (String × String)) :
    Step m Unit :=
  ExceptT.lift (Host.tell verbose ⟨.debug, teller, message, data⟩)

/-- The result of a step that may fail, with what could not be done if it does. -/
def orFail {α : Type} (summary : String) (result : Except FileError α) : Step m α :=
  match result with
  | .ok a => pure a
  | .error e => throw ⟨summary, some e.message⟩

/-- The path of the settings: the given one, which must lead somewhere, or else the one in the
user's directory, if it leads somewhere. -/
def settingsPath (configHome given : Option String) : Step m (Option String) := do
  match given with
  | some path =>
    if ← ExceptT.lift (Host.hasPath path) then pure (some path)
    else throw ⟨"Config file does not exist: " ++ Text.quoted path, none⟩
  | none =>
    match configHome with
    | none => pure none
    | some home =>
      let path := home ++ "/pydurf/config.yaml"
      if ← ExceptT.lift (Host.hasPath path) then pure (some path) else pure none

/-- The settings of this run. -/
def loadSettings (setup : Setup) (verbose : Bool) (given : Option String) : Step m Settings := do
  match ← settingsPath setup.configHome given with
  | none =>
    detail verbose "pydurf" "no config file, using defaults" []
    pure Settings.standard
  | some path =>
    let shown := Text.quoted path
    let text ← orFail ("Failed to read config from " ++ shown) (← ExceptT.lift (Host.readText path))
    match Settings.parse setup.readSettings text with
    | .error e => throw ⟨"Failed to parse config " ++ shown, some e⟩
    | .ok settings =>
      detail verbose "pydurf" "loaded config"
        [("path", shown), ("mode", settings.mode.name),
          ("verify", if settings.verify then "true" else "false")]
      pure settings

/-- The text to encode: the argument, the file, or else the input. -/
def readSubject (request : EncodeRequest) : Step m String := do
  match request.text, request.file with
  | some text, _ => pure text
  | none, some path =>
    orFail ("Failed to read file: " ++ Text.quoted path) (← ExceptT.lift (Host.readText path))
  | none, none => orFail "Failed to read stdin" (← ExceptT.lift Host.readInput)

/-- The encoding of a text, with the details of it. -/
def encodeTelling (verbose : Bool) (mode : Mode) (text : String) : Step m String := do
  match mode with
  | .basic =>
    let parts := Encoding.basicParts text
    detail verbose "pydurf::encoder" "basic encoding" [("chars", toString parts.length)]
    pure (Encoding.join parts)
  | .advanced =>
    let parts := Encoding.advancedParts text
    detail verbose "pydurf::encoder" "advanced encoding"
      [("chars", toString parts.length), ("from_glossary", toString (Encoding.fromGlossary text))]
    pure (Encoding.join parts)

/-- Fails unless an encoding evaluates to its text. -/
def verifyTelling (verbose : Bool) (source : String) (mode : Mode) (text : String) :
    Step m Unit := do
  match verify source mode text with
  | .ok () => inform verbose "verified" []
  | .error mismatch => throw ⟨mismatch.summary, mismatch.cause?⟩

/-- Writes an encoding to the file that is asked for, or to the output. -/
def deliver (verbose : Bool) (output : Option String) (source : String) : Step m Unit := do
  match output with
  | none => ExceptT.lift (Host.print (source ++ "\n"))
  | some path =>
    let shown := Text.quoted path
    orFail ("Failed to write output file: " ++ shown)
      (← ExceptT.lift (Host.writeText path source))
    inform verbose "wrote expression" [("path", shown)]

/-- Encodes a text as a request asks for, under the given settings. -/
def encodeText (verbose : Bool) (settings : Settings) (request : EncodeRequest) (text : String) :
    Step m Unit := do
  let mode := request.mode.getD settings.mode
  let source ← encodeTelling verbose mode text
  inform verbose "encoded"
    [("mode", mode.name), ("input_chars", toString text.length),
      ("output_len", toString source.utf8ByteSize),
      ("alphabet", toString (Encoding.alphabet source).length)]
  if request.verify || settings.verify then verifyTelling verbose source mode text
  deliver verbose request.output source

/-- Encodes what is asked for, under the given settings. -/
def encodeRequest (verbose : Bool) (settings : Settings) (request : EncodeRequest) :
    Step m Unit := do
  let text ← readSubject request
  encodeText verbose settings request text

/-- Writes lines to the output. -/
def printLines (lines : List String) : Step m Unit :=
  ExceptT.lift (Host.print (joinLines lines))

/-- Shows a sample in one mode. -/
def showMode (verbose : Bool) (text : String) (mode : Mode) : Step m Unit := do
  let source ← encodeTelling verbose mode text
  match Demonstration.modeLines mode source with
  | .ok lines => printLines lines
  | .error problem =>
    throw ⟨"Failed to evaluate " ++ mode.name ++ " encoding of " ++ Text.quoted text,
      some problem.message⟩

/-- Shows a sample in both modes. -/
def showSample (verbose : Bool) (text : String) : Step m Unit := do
  printLines (Demonstration.sampleHeading text)
  Mode.all.forM (showMode verbose text)

/-- Shows the demonstration, one part after the other. -/
def demonstrate (verbose : Bool) : Step m Unit := do
  printLines Demonstration.heading
  Demonstration.samples.forM (showSample verbose)

/-- Carries out a command line. -/
def carryOut (setup : Setup) (line : CommandLine) : Step m Unit := do
  match line.command with
  | .encode request =>
    let settings ← loadSettings setup line.verbose line.config
    encodeRequest line.verbose settings request
  | .numeral n =>
    match numeral n with
    | .ok source => ExceptT.lift (Host.print (source ++ "\n"))
    | .error e => throw ⟨e.message, none⟩
  | .demonstrate => demonstrate line.verbose
  | .version => ExceptT.lift (Host.print (versionLine ++ "\n"))

/-- Runs the program with some arguments, and gives its exit code. -/
def run (setup : Setup) (args : List String) : m Nat := do
  match setup.readArgs args with
  | .error (.misuse text) =>
    Host.report text
    pure 2
  | .error (.notice text) =>
    Host.print text
    pure 0
  | .ok line =>
    match ← (carryOut setup line).run with
    | .ok () => pure 0
    | .error failure =>
      Host.report failure.report
      pure 1

end

end Lipogram.EncodeProgram
