import Lipogram.Encoding
import Lipogram.Text.Blank

/-!
# Settings of the encoder

What the encoder does unless its command line says otherwise. A text of settings that is left blank
says nothing.
-/

set_option autoImplicit false

namespace Lipogram

/-- The settings of the encoder. -/
structure Settings where
  mode : Mode
  verify : Bool
  deriving DecidableEq

namespace Settings

/-- The settings when nothing is said. -/
def standard : Settings := ⟨.standard, false⟩

/-- The settings that a text gives, which is read by a reader of settings unless it is blank. -/
def parse (read : String → Except String Settings) (text : String) : Except String Settings :=
  if (Text.trim text).isEmpty then .ok standard else read text

end Settings

end Lipogram
