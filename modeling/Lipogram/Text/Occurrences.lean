/-!
# Occurrences

How often a text occurs in another one. Occurrences are looked for from left to right, each one
behind the last, so that no two of them overlap.
-/

set_option autoImplicit false

namespace Lipogram.Text

/-- How often some characters occur behind the first `passed` ones of others. -/
def occurrencesBehind (sought : List Char) : Nat → List Char → Nat
  | _, [] => 0
  | passed + 1, _ :: cs => occurrencesBehind sought passed cs
  | 0, c :: cs =>
    if sought.isPrefixOf (c :: cs) then occurrencesBehind sought (sought.length - 1) cs + 1
    else occurrencesBehind sought 0 cs

/-- How often a text that is not empty occurs in another one. -/
def occurrences (sought text : String) : Nat :=
  occurrencesBehind sought.toList 0 text.toList

example : occurrences "aa" "aaaaa" = 2 := by decide

end Lipogram.Text
