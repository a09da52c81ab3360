import Lipogram.Encoding

/-!
# Command lines of the encoder

What a command line asks for, once it has been understood.
-/

set_option autoImplicit false

namespace Lipogram

/-- What `encode` is asked to do. -/
structure EncodeRequest where
  text : Option String
  file : Option String
  mode : Option Mode
  output : Option String
  verify : Bool

/-- The commands of the encoder. -/
inductive Command where
  | encode (request : EncodeRequest)
  | numeral (n : Int)
  | demonstrate
  | version

/-- A command line that has been understood. -/
structure CommandLine where
  verbose : Bool
  config : Option String
  command : Command

/-- What is answered to a command line that asks for nothing to be carried out: what is wrong with
it, or what it asks to be shown. -/
inductive Answer where
  | misuse (text : String)
  | notice (text : String)

end Lipogram
