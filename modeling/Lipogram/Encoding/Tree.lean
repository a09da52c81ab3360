import Lipogram.Encoding

/-!
# Encodings as trees

An encoding is the written form of a sum with one term for each character. The trees are made here;
what is written is made part by part, without any tree.
-/

set_option autoImplicit false

namespace Lipogram

namespace Encoding

/-- The term that counts up to the code of a character. -/
def counted (c : Char) : Term :=
  .call Builtin.chr.toName [Numeral.expr c.toNat]

/-- The term for a character from the glossary, or the term that counts if the glossary has none. -/
def spelled (c : Char) : Term :=
  (Glossary.lookup c).getD (counted c)

/-- The term for a character in a mode. -/
def term (mode : Mode) (c : Char) : Term :=
  match mode with
  | .basic => counted c
  | .advanced => spelled c

/-- The expression for the empty text. -/
def nothing : Expr :=
  (Term.call Builtin.str.toName []).toExpr

/-- The sum of terms, one for each character. -/
def sum : List Term → Expr
  | [] => nothing
  | first :: rest => .sum first rest

end Encoding

/-- The expression that a text is encoded as. -/
def encodeExpr (mode : Mode) (text : String) : Expr :=
  match mode with
  | .basic => Encoding.sum (text.toList.map Encoding.counted)
  | .advanced => Encoding.sum ((Text.lowercase text).toList.map Encoding.spelled)

end Lipogram
