import Lipogram.Builtin

/-!
# Problems of sources

What can go wrong when a source is evaluated. A problem is a cause; its wording is given by
`Problem.message` alone. Malformed sources carry the place of the fault, counted in bytes of the
UTF-8 encoding of the source.
-/

set_option autoImplicit false

namespace Lipogram

/-- The ways in which a source breaks the grammar of expressions. -/
inductive Malformation where
  | nestedTooDeeply
  | unexpectedEnd
  | unexpected (found : Char)
  | trailing
  | expected (closer : Char) (orComma : Bool) (found : Char)
  | unclosed (closer : Char)
  deriving DecidableEq

/-- The ways in which an operation meets a value of a type it is not made for. -/
inductive Clash where
  | noLength (kind : String)
  | notInteger (kind : String)
  | notCallable (f : Builtin)
  | notAddable (left right : String)
  | notSubscriptable (kind : String)
  | notText (kind : String)
  deriving DecidableEq

/-- How many arguments a built-in takes. -/
inductive Arity where
  | exactlyOne
  | atMostOne
  deriving DecidableEq

/-- Why a source has no value. -/
inductive Problem where
  | malformed (offset : Nat) (fault : Malformation)
  | unknownName (name : String)
  | clash (cause : Clash)
  | outOfRange (index : Int) (length : Nat)
  | noCharacter (code : Int)
  | arity (f : Builtin) (taken : Arity) (given : Nat)
  deriving DecidableEq

/-- The wording of a fault of form. -/
def Malformation.message : Malformation → String
  | nestedTooDeeply => "expression nested too deeply"
  | unexpectedEnd => "unexpected end of input"
  | unexpected c => "unexpected character '" ++ c.toString ++ "'"
  | trailing => "unexpected trailing input"
  | expected closer orComma c =>
    "expected " ++ (if orComma then "',' or '" else "'") ++ closer.toString ++ "', found '" ++
      c.toString ++ "'"
  | unclosed closer => "expected '" ++ closer.toString ++ "', found end of input"

/-- The wording of a clash of types. -/
def Clash.message : Clash → String
  | noLength kind => "object of type '" ++ kind ++ "' has no len()"
  | notInteger kind => "'" ++ kind ++ "' object cannot be interpreted as an integer"
  | notCallable f => "calling " ++ f.name ++ "() is not supported"
  | notAddable left right =>
    "unsupported operand type(s) for +: '" ++ left ++ "' and '" ++ right ++ "'"
  | notSubscriptable kind => "'" ++ kind ++ "' object is not subscriptable"
  | notText kind => "expression evaluated to '" ++ kind ++ "', not 'str'"

/-- The wording of a number of arguments. -/
def Arity.message : Arity → String
  | exactlyOne => "exactly 1"
  | atMostOne => "at most 1"

/-- The wording of a problem. -/
def Problem.message : Problem → String
  | malformed offset fault => "syntax error at offset " ++ toString offset ++ ": " ++ fault.message
  | unknownName name => "name '" ++ name ++ "' is not defined"
  | clash cause => "type error: " ++ cause.message
  | outOfRange index length =>
    "index " ++ toString index ++ " out of range for length " ++ toString length
  | noCharacter code => "chr() arg not in range(0x110000): " ++ toString code
  | arity f taken given =>
    f.name ++ "() takes " ++ taken.message ++ " argument(s) (" ++ toString given ++ " given)"

end Lipogram
