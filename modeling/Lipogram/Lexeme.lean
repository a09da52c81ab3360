import Lipogram.Expr
import Lipogram.Text.Blank

/-!
# Lexemes

The smallest parts of a source: words, which are the longest runs of characters that a name may
have, and all other characters one by one. Blanks stand between lexemes and are no lexemes.
-/

set_option autoImplicit false

namespace Lipogram

/-- A smallest part of a source. -/
inductive Lexeme where
  | word (letters : List Char)
  | mark (c : Char)
  deriving DecidableEq

namespace Lexeme

/-- The lexemes of a source, from left to right; `word` holds the letters of a word that is not at
its end yet, the last of them first. -/
def scan (word : List Char) : List Char → List Lexeme
  | [] => ended word
  | c :: cs =>
    if (if word.isEmpty then startsName c else continuesName c) then scan (c :: word) cs
    else if Text.isBlank c then ended word ++ scan [] cs
    else ended word ++ mark c :: scan [] cs
where
  /-- The word that ends, if there is one. -/
  ended (word : List Char) : List Lexeme :=
    if word.isEmpty then [] else [.word word.reverse]

/-- The lexemes of a source. -/
def ofSource (source : String) : List Lexeme :=
  scan [] source.toList

end Lexeme

/-- The lexeme that a name is. -/
def Name.lexeme (n : Name) : Lexeme :=
  .word (n.first :: n.rest)

mutual

/-- The lexemes of an expression. -/
def Expr.lexemes : Expr → List Lexeme
  | .sum first rest => first.lexemes ++ Term.moreLexemes rest

/-- The lexemes of a term. -/
def Term.lexemes : Term → List Lexeme
  | .name n => [n.lexeme]
  | .call n args => n.lexeme :: .mark '(' :: (Expr.itemLexemes args ++ [.mark ')'])
  | .list items => .mark '[' :: (Expr.itemLexemes items ++ [.mark ']'])
  | .pick base index => base.lexemes ++ .mark '[' :: (index.lexemes ++ [.mark ']'])

/-- The lexemes of the terms behind the first one of a sum. -/
def Term.moreLexemes : List Term → List Lexeme
  | [] => []
  | t :: ts => .mark '+' :: (t.lexemes ++ Term.moreLexemes ts)

/-- The lexemes of the items in a bracket. -/
def Expr.itemLexemes : List Expr → List Lexeme
  | [] => []
  | [e] => e.lexemes
  | e :: es => e.lexemes ++ .mark ',' :: Expr.itemLexemes es

end

end Lipogram
