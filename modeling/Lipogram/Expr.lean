import Lipogram.Builtin

/-!
# Expressions

The trees that sources are read as. An expression is a sum of one or more terms; a term is a name, a
call, a list, or a subscripted term. `Expr.text` writes a tree without any blanks.

    expression  =  term { "+" term }
    term        =  name | name "(" items ")" | "[" items "]" | term "[" expression "]"
    items       =  [ expression { "," expression } ]
-/

set_option autoImplicit false

namespace Lipogram

/-- A character that may begin a name: an ASCII letter or the underscore. -/
def startsName (c : Char) : Bool :=
  c.isAlpha || c == '_'

/-- A character that may stand inside a name: one that may begin it, or an ASCII digit. -/
def continuesName (c : Char) : Bool :=
  c.isAlphanum || c == '_'

/-- A name: a character that may begin it, then characters that may stand inside it. -/
structure Name where
  first : Char
  rest : List Char
  first_starts : startsName first = true
  rest_continues : rest.all continuesName = true

/-- The spelling of a name. -/
def Name.text (n : Name) : String :=
  String.ofList (n.first :: n.rest)

/-- The spelling of a built-in as a name. -/
def Builtin.toName : Builtin → Name
  | .bool => ⟨'b', ['o', 'o', 'l'], rfl, rfl⟩
  | .chr => ⟨'c', ['h', 'r'], rfl, rfl⟩
  | .hash => ⟨'h', ['a', 's', 'h'], rfl, rfl⟩
  | .len => ⟨'l', ['e', 'n'], rfl, rfl⟩
  | .repr => ⟨'r', ['e', 'p', 'r'], rfl, rfl⟩
  | .str => ⟨'s', ['t', 'r'], rfl, rfl⟩
  | .type => ⟨'t', ['y', 'p', 'e'], rfl, rfl⟩

/-- The name of a built-in is spelled as the built-in is. -/
theorem text_toName (f : Builtin) : f.toName.text = f.name := by
  cases f <;> rfl

mutual

/-- A sum of one or more terms. -/
inductive Expr where
  | sum (first : Term) (rest : List Term)

/-- An operand of a sum. -/
inductive Term where
  | name (n : Name)
  | call (f : Name) (args : List Expr)
  | list (items : List Expr)
  | pick (base : Term) (index : Expr)

end

/-- A term as an expression of its own. -/
def Term.toExpr (t : Term) : Expr :=
  .sum t []

mutual

/-- The written form of an expression. -/
def Expr.text : Expr → String
  | .sum first rest => "+".intercalate (first.text :: rest.map Term.text)

/-- The written form of a term. -/
def Term.text : Term → String
  | .name n => n.text
  | .call f args => f.text ++ "(" ++ ",".intercalate (args.map Expr.text) ++ ")"
  | .list items => "[" ++ ",".intercalate (items.map Expr.text) ++ "]"
  | .pick base index => base.text ++ "[" ++ index.text ++ "]"

end

end Lipogram
