import Lipogram.Verification

/-!
# The demonstration

A few texts, their encodings in both modes, and what these evaluate to.
-/

set_option autoImplicit false

namespace Lipogram.Demonstration

/-- The texts that are shown. -/
def samples : List String := ["Hello", "Python", "1234", "!@#$"]

/-- How the demonstration begins. -/
def heading : List String :=
  ["pydurf encoding demonstration", String.ofList (List.replicate 50 '=')]

/-- How a sample begins. -/
def sampleHeading (text : String) : List String :=
  ["", "Encoding: " ++ Text.quoted text]

/-- An encoding of a sample in one mode. -/
def modeLines (mode : Mode) (source : String) : Except Problem (List String) :=
  match evaluateText source with
  | .error problem => .error problem
  | .ok result =>
    .ok ["", mode.name ++ " encoding (" ++ toString (Encoding.alphabet source).length ++ " chars):",
      "Code: " ++ source, "Result: " ++ Text.quoted result]

/-- One sample in both modes. -/
def sampleLines (text : String) : Except Problem (List String) := do
  let shown ← Mode.all.mapM (fun mode => modeLines mode (encode mode text))
  pure (sampleHeading text ++ shown.flatten)

/-- All lines of the demonstration. -/
def lines : Except Problem (List String) := do
  let shown ← samples.mapM sampleLines
  pure (heading ++ shown.flatten)

end Lipogram.Demonstration
