import Lipogram.Proofs.Numerals
import Lipogram.Proofs.Readings
import Lipogram.Proofs.TwoPhases

/-!
# Sources made of sources

A source can be put into another one: as the argument of a call, as the index of a subscript or
what it picks from, or as a part of a sum. Punctuation ends every word, so the lexemes of the parts
stay as they are, and the tree of the whole is made of the trees of the parts.
-/

set_option autoImplicit false

namespace Lipogram

/-! ## Lexemes -/

namespace Lexeme

/-- Punctuation between two stretches of characters is a lexeme between their lexemes. -/
theorem scan_between {c : Char} (h : c ∈ punctuation) (cs ds : List Char) :
    scan [] (cs ++ c :: ds) = scan [] cs ++ .mark c :: scan [] ds := by
  rw [scan_append (endsWord_of_punctuation h ds), scan_mark (proper_of_punctuation h)]

/-- Two sources with a plus sign between them. -/
theorem ofSource_plus (a b : String) :
    ofSource (a ++ "+" ++ b) = ofSource a ++ .mark '+' :: ofSource b := by
  have spelled : (a ++ "+" ++ b).toList = a.toList ++ '+' :: b.toList := by simp
  rw [ofSource, spelled, scan_between (by decide)]
  rfl

/-- A source as the argument of a call. -/
theorem ofSource_call (f : Builtin) (a : String) :
    ofSource (f.name ++ "(" ++ a ++ ")") =
      f.toName.lexeme :: .mark '(' :: (ofSource a ++ [.mark ')']) := by
  have spelled : (f.name ++ "(" ++ a ++ ")").toList =
      f.toName.text.toList ++ '(' :: (a.toList ++ ')' :: []) := by
    rw [text_toName]
    simp
  have opens := endsWord_of_punctuation (c := '(') (by decide) (a.toList ++ ')' :: [])
  rw [ofSource, spelled, scan_name f.toName opens, scan_mark (proper_of_punctuation (by decide)),
    scan_between (by decide)]
  rfl

/-- A source that is picked from, with another one as the index. -/
theorem ofSource_pick (a b : String) :
    ofSource (a ++ "[" ++ b ++ "]") =
      ofSource a ++ .mark '[' :: (ofSource b ++ [.mark ']']) := by
  have spelled : (a ++ "[" ++ b ++ "]").toList = a.toList ++ '[' :: (b.toList ++ ']' :: []) := by
    simp
  rw [ofSource, spelled, scan_between (by decide), scan_between (by decide)]
  rfl

end Lexeme

/-! ## Trees -/

/-- A term that stands alone has its own lexemes. -/
theorem Term.toExpr_lexemes (t : Term) : t.toExpr.lexemes = t.lexemes :=
  List.append_nil t.lexemes

/-- The sum of the terms of two expressions. -/
def Expr.join : Expr → Expr → Expr
  | .sum first rest, .sum second more => .sum first (rest ++ second :: more)

/-- Two sums are joined with a plus sign between their lexemes. -/
theorem Expr.join_lexemes (e e' : Expr) :
    (e.join e').lexemes = e.lexemes ++ .mark '+' :: e'.lexemes := by
  obtain ⟨first, rest⟩ := e
  obtain ⟨second, more⟩ := e'
  simp [join, lexemes, Term.moreLexemes_append, Term.moreLexemes]

/-- Terms are as deep as the deepest of them. -/
theorem Term.depths_append (ts us : List Term) :
    depths (ts ++ us) = max (depths ts) (depths us) := by
  induction ts with
  | nil => simp [depths]
  | cons t ts ih =>
    rw [List.cons_append, depths, depths, ih]
    omega

/-- Joined sums are as deep as the deeper one. -/
theorem Expr.join_depth (e e' : Expr) : (e.join e').depth = max e.depth e'.depth := by
  obtain ⟨first, rest⟩ := e
  obtain ⟨second, more⟩ := e'
  rw [join, depth, depth, depth, Term.depths_append, Term.depths]
  omega

/-- More terms are added behind those that have been added. -/
theorem Term.addAll_append (ts us : List Term) (sum : Value) :
    addAll (ts ++ us) sum = (addAll ts sum).bind (addAll us) := by
  induction ts generalizing sum with
  | nil => rfl
  | cons t ts ih =>
    have of_rest : addAll (ts ++ us) = fun s => (addAll ts s).bind (addAll us) := funext ih
    simp only [List.cons_append, addAll, of_rest, bind_bind]

/-- Behind the sum of the first expression, the terms of the second are added one by one. -/
theorem Expr.join_value (e : Expr) (second : Term) (more : List Term) :
    (e.join (.sum second more)).value = e.value.bind (Term.addAll (second :: more)) := by
  obtain ⟨first, rest⟩ := e
  have of_rest : Term.addAll (rest ++ second :: more) =
      fun sum => (Term.addAll rest sum).bind (Term.addAll (second :: more)) :=
    funext (Term.addAll_append rest (second :: more))
  rw [join, value, value, of_rest, bind_bind]

/-! ## Readings -/

section

variable {a b : String} {e e' : Expr} {t : Term}

/-- Two sources with a plus sign between them are read as the joined trees. -/
theorem Expr.reading_plus (left : e.lexemes = Lexeme.ofSource a)
    (right : e'.lexemes = Lexeme.ofSource b) :
    (e.join e').lexemes = Lexeme.ofSource (a ++ "+" ++ b) := by
  rw [Lexeme.ofSource_plus, ← left, ← right, Expr.join_lexemes]

/-- A source in the parentheses of a built-in is read as a call with its tree. -/
theorem Term.reading_call (f : Builtin) (inside : e.lexemes = Lexeme.ofSource a) :
    (call f.toName [e]).toExpr.lexemes = Lexeme.ofSource (f.name ++ "(" ++ a ++ ")") := by
  rw [Lexeme.ofSource_call, ← inside, toExpr_lexemes]
  rfl

/-- A source in brackets behind another one is read as a subscript, if the other is a term. -/
theorem Term.reading_pick (base : t.toExpr.lexemes = Lexeme.ofSource a)
    (index : e.lexemes = Lexeme.ofSource b) :
    (pick t e).toExpr.lexemes = Lexeme.ofSource (a ++ "[" ++ b ++ "]") := by
  rw [Lexeme.ofSource_pick, ← base, ← index, toExpr_lexemes, toExpr_lexemes]
  rfl

/-- A tree with the lexemes of a source that has a value is the one that the source is read as: it
is not too deep, and has the value. -/
theorem reading_of_value {source : String} {v : Value} (h : evaluate source = .ok v)
    (read : e.lexemes = Lexeme.ofSource source) :
    e.depth ≤ Reader.deepestLevel ∧ e.value = .ok v := by
  obtain ⟨tree, read_tree, shallow, value⟩ := exists_reading h
  obtain rfl : e = tree := Expr.lexemes_injective (read.trans read_tree.symm)
  exact ⟨shallow, value⟩

end

end Lipogram
