import Lipogram.Glossary
import Lipogram.Text.Lowercase

/-!
# Encoding of texts

A text is written as a source that evaluates to it. Every character becomes one part of the source,
and the parts are joined by plus signs. The basic mode counts up to the code of each character and
needs few different characters; the advanced mode gives up the case of letters, and takes parts from
the glossary where it can.
-/

set_option autoImplicit false

namespace Lipogram

/-- How a text is encoded. -/
inductive Mode where
  | basic
  | advanced
  deriving DecidableEq

namespace Mode

/-- The name of the mode. -/
def name : Mode → String
  | basic => "basic"
  | advanced => "advanced"

/-- Both modes. -/
def all : List Mode := [basic, advanced]

/-- The mode that is taken when none is asked for. -/
def standard : Mode := advanced

/-- The mode with a name. -/
def ofName? (name : String) : Option Mode :=
  all.find? (fun mode => mode.name == name)

/-- The text that an encoding of `text` stands for. -/
def output : Mode → String → String
  | basic, text => text
  | advanced, text => Text.lowercase text

end Mode

namespace Encoding

/-- The encoding of the empty text. -/
def empty : String := "str()"

/-- The part that counts up to the code of a character. -/
def encodeChar (c : Char) : String :=
  "chr(" ++ Numeral.render c.toNat ++ ")"

/-- The part for a character from the glossary, or the part that counts if the glossary has none. -/
def encodeLetter (c : Char) : String :=
  match Glossary.lookup c with
  | some t => t.text
  | none => encodeChar c

/-- Parts joined by plus signs. -/
def join (parts : List String) : String :=
  if parts.isEmpty then empty else "+".intercalate parts

/-- The parts of the basic encoding of a text. -/
def basicParts (text : String) : List String :=
  text.toList.map encodeChar

/-- The parts of the advanced encoding of a text. -/
def advancedParts (text : String) : List String :=
  (Text.lowercase text).toList.map encodeLetter

/-- The number of parts of the advanced encoding of a text that are from the glossary. -/
def fromGlossary (text : String) : Nat :=
  (Text.lowercase text).toList.countP (fun c => (Glossary.lookup c).isSome)

/-- The characters that basic encodings of non-empty texts are written with. -/
def basicAlphabet : String := "chrlenbo()[],+"

/-- The different characters of a text, in the order of their codes. -/
def alphabet (text : String) : List Char :=
  (text.toList.foldl (fun seen c => if seen.contains c then seen else c :: seen) []).mergeSort
    (fun a b => a.toNat ≤ b.toNat)

end Encoding

/-- The encoding of a text in basic mode. -/
def encodeBasic (text : String) : String :=
  Encoding.join (Encoding.basicParts text)

/-- The encoding of a text in advanced mode. -/
def encodeAdvanced (text : String) : String :=
  Encoding.join (Encoding.advancedParts text)

/-- The encoding of a text. -/
def encode (mode : Mode) (text : String) : String :=
  match mode with
  | .basic => encodeBasic text
  | .advanced => encodeAdvanced text

end Lipogram
