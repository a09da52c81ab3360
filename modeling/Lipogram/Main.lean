import Lipogram.CommandLine.Reader
import Lipogram.DecodeProgram
import Lipogram.EncodeProgram
import Lipogram.Settings.Document

/-!
# The two programs

The encoder and the decoder with the files and streams of the operating system. Which of the two
runs is told by the name under which the program is started.
-/

set_option autoImplicit false

namespace Lipogram.Main

/-- The error behind a refusal of the operating system. -/
def fileError : IO.Error → FileError
  | .noFileOrDirectory _ _ _ => .notFound
  | .inappropriateType _ code reason => byCode code reason
  | e => .refused (toString e)
where
  /-- The error with a number. -/
  byCode (code : UInt32) (reason : String) : FileError :=
    if code == 20 then .notDirectory else if code == 21 then .isDirectory else .refused reason

/-- All bytes of a stream. -/
partial def drain (stream : IO.FS.Stream) (bytes : ByteArray) : IO ByteArray := do
  let more ← stream.read 65536
  if more.isEmpty then pure bytes else drain stream (bytes ++ more)

instance : Host IO where
  hasPath path := do
    ((← IO.currentDir) / path).pathExists
  readText path := do
    match ← (IO.FS.readBinFile path).toBaseIO with
    | .ok bytes => pure (decodeText bytes)
    | .error e => pure (.error (fileError e))
  writeText path text := do
    match ← (IO.FS.writeFile path text).toBaseIO with
    | .ok () => pure (.ok ())
    | .error e => pure (.error (fileError e))
  readInput := do
    pure (decodeText (← drain (← IO.getStdin) .empty))
  print text := do
    let stream ← IO.getStdout
    stream.putStr text
    stream.flush
  report := reportText
  tell verbose event := reportText (event.line verbose)
where
  /-- Writes to the stream for errors. -/
  reportText (text : String) : IO Unit := do
    let stream ← IO.getStderr
    stream.putStr text
    stream.flush

/-- The directory of the user's settings. -/
def configHome : IO (Option String) := do
  match ← IO.getEnv "XDG_CONFIG_HOME" with
  | some dir => if dir.startsWith "/" then pure (some dir) else fallback
  | none => fallback
where
  /-- The directory below the home of the user. -/
  fallback : IO (Option String) := do
    match ← IO.getEnv "HOME" with
    | some home => if home.isEmpty then pure none else pure (some (home ++ "/.config"))
    | none => pure none

/-- What the encoder is set up with: command lines and YAML are read as in this library. -/
def setup : IO EncodeProgram.Setup := do
  pure ⟨CommandLine.read, Settings.ofYaml, ← configHome⟩

end Lipogram.Main

/-- Runs the decoder if the program is started as `decode`, and the encoder otherwise. -/
def main (args : List String) : IO UInt32 := do
  let code ←
    if (← IO.appPath).fileName == some "decode" then
      Lipogram.DecodeProgram.run args
    else
      Lipogram.EncodeProgram.run (← Lipogram.Main.setup) args
  pure (UInt32.ofNat code)
