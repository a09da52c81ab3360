import Lipogram.Text.Casing

/-!
# Lower case of texts

Texts are lowered by the default rules of Unicode. Each character is replaced by its lower case,
which is one character except for the dotted capital I. The capital sigma alone depends on where it
stands: at the end of a word it becomes the final form of the letter.
-/

set_option autoImplicit false

namespace Lipogram.Text

/-- The lower case of a character by itself. -/
def lowerChar (c : Char) : List Char :=
  if c = '\u0130' then ['i', '\u0307']
  else
    match caseRuns.find? (fun run => run.covers c.toNat) with
    | some run => [Char.ofNat (c.toNat + run.shift).toNat]
    | none => [c]

/-- Whether the next character that is not passed over is cased. -/
def meetsCased (cs : List Char) : Bool :=
  match cs.dropWhile isCaseIgnorable with
  | [] => false
  | c :: _ => isCased c

/-- The lower case of a capital sigma between the characters `before`, the nearest of them first,
and the characters `after`: final if a letter stands before it and none after it. -/
def lowerSigma (before after : List Char) : Char :=
  if meetsCased before && !meetsCased after then 'ς' else 'σ'

/-- The lower case of `cs`, put in front of which is the reverse of `done`; `before` holds the
characters to the left of `cs`, the nearest of them first. -/
def lowerFrom (done before : List Char) : List Char → List Char
  | [] => done.reverse
  | c :: cs =>
    if c = 'Σ' then lowerFrom (lowerSigma before cs :: done) (c :: before) cs
    else lowerFrom ((lowerChar c).reverse ++ done) (c :: before) cs

/-- The lower case of a list of characters. -/
def lowerChars (cs : List Char) : List Char :=
  lowerFrom [] [] cs

/-- The lower case of a text. -/
def lowercase (text : String) : String :=
  String.ofList (lowerChars text.toList)

end Lipogram.Text
