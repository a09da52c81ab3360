import Lipogram.Evaluation
import Lipogram.Host
import Lipogram.Text.Quoted

/-!
# The decoder as a program

The decoder evaluates an expression, from a file or from its input, and writes the text that comes
out, with nothing added to it.
-/

set_option autoImplicit false

namespace Lipogram.DecodeProgram

/-- How the program is called. -/
def usage : String := "Usage: decode [file.py]"

/-- The text that a source evaluates to; blanks around the source do not count. -/
def decode (source : String) : Except Problem String :=
  evaluateText (Text.trim source)

section

variable {m : Type → Type} [Monad m] [Host m]

/-- The expression to decode: the content of the file, or else the input. -/
def readSource (path : Option String) : ExceptT Failure m String := do
  match path with
  | some path =>
    match ← ExceptT.lift (Host.readText path) with
    | .ok text => pure text
    | .error e =>
      throw ⟨"Failed to read expression file " ++ Text.quoted path ++ ": " ++ e.message, none⟩
  | none =>
    match ← ExceptT.lift Host.readInput with
    | .ok text => pure text
    | .error e => throw ⟨"Failed to read stdin: " ++ e.message, none⟩

/-- Decodes the expression in a file, or in the input. -/
def decodeFrom (path : Option String) : ExceptT Failure m Unit := do
  let source ← readSource path
  match decode source with
  | .ok text => ExceptT.lift (Host.print text)
  | .error problem => throw ⟨problem.message, none⟩

/-- Carries out the arguments: at most one, which is a path and no request for help. -/
def carryOut (args : List String) : ExceptT Failure m Unit := do
  match args with
  | [] => decodeFrom none
  | [arg] =>
    if arg == "-h" || arg == "--help" then throw ⟨usage, none⟩ else decodeFrom (some arg)
  | _ => throw ⟨usage, none⟩

/-- Runs the program with some arguments, and gives its exit code. -/
def run (args : List String) : m Nat := do
  match ← (carryOut args).run with
  | .ok () => pure 0
  | .error failure =>
    Host.report failure.report
    pure 1

end

end Lipogram.DecodeProgram
