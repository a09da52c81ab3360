import Lipogram.Proofs.Scanning

/-!
# Characters of lexemes

Scanning loses nothing but blanks and writing adds nothing: the characters of lexemes stand in the
source that they are scanned from, and the written form of an expression is made of the characters
of its lexemes.
-/

set_option autoImplicit false

namespace Lipogram

/-- The characters that a lexeme is made of. -/
def Lexeme.characters : Lexeme → List Char
  | word letters => letters
  | mark c => [c]

/-- The characters that some lexemes are made of, one lexeme after the other. -/
def Lexeme.spelling (ls : List Lexeme) : List Char :=
  ls.flatMap characters

namespace Lexeme

/-- No lexemes have no characters. -/
@[simp]
theorem spelling_nil : spelling [] = [] := rfl

/-- The characters of the first lexeme come first. -/
@[simp]
theorem spelling_cons (l : Lexeme) (ls : List Lexeme) :
    spelling (l :: ls) = l.characters ++ spelling ls := rfl

/-- Lexemes behind each other are spelled behind each other. -/
@[simp]
theorem spelling_append (ls ms : List Lexeme) :
    spelling (ls ++ ms) = spelling ls ++ spelling ms :=
  List.flatMap_append

/-- A mark is one character. -/
@[simp]
theorem characters_mark (c : Char) : (mark c).characters = [c] := rfl

/-- A word that has ended is spelled with its letters in the order of the source. -/
theorem spelling_ended (letters : List Char) :
    spelling (scan.ended letters) = letters.reverse := by
  cases letters with
  | nil => rfl
  | cons c letters => simp [scan.ended, characters]

/-- Scanning keeps the order of characters and leaves out only blanks. -/
theorem spelling_scan (letters cs : List Char) :
    (spelling (scan letters cs)).Sublist (letters.reverse ++ cs) := by
  induction cs generalizing letters with
  | nil =>
    have all : spelling (scan letters []) = letters.reverse := spelling_ended letters
    simp [all]
  | cons c cs ih =>
    have rest : (spelling (scan [] cs)).Sublist cs := ih []
    unfold scan
    by_cases inside : (if letters.isEmpty then startsName c else continuesName c) = true
    · rw [if_pos inside]
      simpa using ih (c :: letters)
    · rw [if_neg inside]
      by_cases blank : Text.isBlank c = true
      · rw [if_pos blank, spelling_append, spelling_ended]
        exact (List.Sublist.refl _).append (rest.cons c)
      · rw [if_neg blank, spelling_append, spelling_ended, spelling_cons]
        exact (List.Sublist.refl _).append (rest.cons_cons c)

/-- The characters of the lexemes of a source stand in the source. -/
theorem spelling_ofSource (source : String) :
    (spelling (ofSource source)).Sublist source.toList :=
  spelling_scan [] source.toList

end Lexeme

open Lexeme

/-- A name is made of the characters of its spelling. -/
@[simp]
theorem Name.characters_lexeme (n : Name) : n.lexeme.characters = n.text.toList := by
  unfold Name.text
  rw [String.toList_ofList]
  rfl

mutual

/-- A written expression is made of the characters of its lexemes. -/
theorem Expr.spelling_lexemes (e : Expr) : spelling e.lexemes = e.text.toList :=
  match e with
  | .sum first rest => by
    rw [Expr.lexemes, spelling_append, Term.spelling_lexemes first, Term.spelling_more rest,
      Expr.text, intercalate_toList, List.flatMap_map]

/-- A written term is made of the characters of its lexemes. -/
theorem Term.spelling_lexemes (t : Term) : spelling t.lexemes = t.text.toList :=
  match t with
  | .name n => by simp [Term.lexemes, Term.text]
  | .call n args => by simp [Term.lexemes, Term.text, Expr.spelling_items args]
  | .list items => by simp [Term.lexemes, Term.text, Expr.spelling_items items]
  | .pick base index => by
    simp [Term.lexemes, Term.text, Term.spelling_lexemes base, Expr.spelling_lexemes index]

/-- So are the terms behind the first one of a sum, each with a plus sign in front of it. -/
theorem Term.spelling_more (ts : List Term) :
    spelling (Term.moreLexemes ts) = ts.flatMap (fun t => "+".toList ++ t.text.toList) :=
  match ts with
  | [] => rfl
  | t :: ts => by simp [Term.moreLexemes, Term.spelling_lexemes t, Term.spelling_more ts]

/-- So are the items in a bracket, with commas between them. -/
theorem Expr.spelling_items (es : List Expr) :
    spelling (Expr.itemLexemes es) = (",".intercalate (es.map Expr.text)).toList :=
  match es with
  | [] => rfl
  | [e] => by simp [Expr.itemLexemes, Expr.spelling_lexemes e]
  | e :: e' :: es => by
    simp [Expr.itemLexemes, Expr.spelling_lexemes e, Expr.spelling_items (e' :: es),
      String.intercalate_cons_cons]

end

end Lipogram
