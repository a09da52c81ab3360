/-!
# Built-in names

The seven built-in names that an expression may use. Three of them name types, the other four
functions; each has a printed form that says which, and encoded letters are picked out of these
printed forms.
-/

set_option autoImplicit false

namespace Lipogram

/-- A built-in name. -/
inductive Builtin where
  | bool
  | chr
  | hash
  | len
  | repr
  | str
  | type
  deriving DecidableEq

namespace Builtin

/-- All built-in names, in alphabetical order. -/
def all : List Builtin := [bool, chr, hash, len, repr, str, type]

/-- The list of all built-in names leaves none out. -/
theorem mem_all (f : Builtin) : f ∈ all := by
  cases f <;> decide

/-- The spelling of the name. -/
def name : Builtin → String
  | bool => "bool"
  | chr => "chr"
  | hash => "hash"
  | len => "len"
  | repr => "repr"
  | str => "str"
  | type => "type"

/-- The built-in that a word names, if it names one. -/
def ofName? (word : String) : Option Builtin :=
  all.find? (fun f => f.name == word)

/-- The names of types, as opposed to names of functions. -/
def isType : Builtin → Bool
  | bool | str | type => true
  | chr | hash | len | repr => false

/-- The printed form of the built-in as a value. -/
def text (f : Builtin) : String :=
  if f.isType then "<class '" ++ f.name ++ "'>" else "<built-in function " ++ f.name ++ ">"

/-- Reading the spelling of a built-in gives the built-in back. -/
theorem ofName_name (f : Builtin) : ofName? f.name = some f := by
  cases f <;> rfl

/-- A word names a built-in only as its spelling. -/
theorem ofName_eq_some {word : String} {f : Builtin} (h : ofName? word = some f) :
    f.name = word := by
  have found := List.find?_some h
  simpa using found

end Builtin

end Lipogram
