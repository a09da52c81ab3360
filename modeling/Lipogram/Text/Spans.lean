/-!
# Spans of codes

Sets of characters given as spans of codes, in which the tables of Unicode properties are written.
-/

set_option autoImplicit false

namespace Lipogram.Text

/-- Whether the code of a character lies in one of the spans, ends included. -/
def inSpans (spans : List (Nat × Nat)) (c : Char) : Bool :=
  spans.any (fun span => span.1 ≤ c.toNat && c.toNat ≤ span.2)

end Lipogram.Text
