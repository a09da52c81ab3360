import Lipogram.Lexeme
import Mathlib.Tactic.SplitIfs

/-!
# Drafts of expressions

The other way to evaluate a source is to read it as a tree first. A draft is a tree that has been
read up to some place: it grows by one lexeme at a time, without evaluating anything and without any
limit on its depth. `parse_eq_some_iff` says that drafts read exactly the lexemes of expressions, so
that no two expressions have the same lexemes.
-/

set_option autoImplicit false

namespace Lipogram

/-- What a bracket with items in it makes of them. -/
inductive Opener where
  | list
  | call (n : Name)

namespace Opener

/-- The character that closes the bracket. -/
def closer : Opener → Char
  | list => ']'
  | call _ => ')'

/-- The term that the items make. -/
def term : Opener → List Expr → Term
  | list, items => .list items
  | call n, args => .call n args

/-- The lexemes up to the opening bracket. -/
def lexemes : Opener → List Lexeme
  | list => [.mark '[']
  | call n => [n.lexeme, .mark '(']

end Opener

/-- A sum with one more term. -/
def Expr.plus : Option Expr → Term → Expr
  | none, t => t.toExpr
  | some (.sum first rest), t => .sum first (rest ++ [t])

namespace Draft

/-- An open bracket: the items before the current one, the last of them first, or the base of a
subscript; and the sum to the left of the term that the bracket belongs to. -/
inductive Frame where
  | items (opener : Opener) (done : List Expr) (left : Option Expr)
  | index (base : Term) (left : Option Expr)

/-- What was read last: nothing of the operand that must come, an opening bracket, a name, or a
term that is more than a name. -/
inductive Focus where
  | operand
  | opened (opener : Opener)
  | name (n : Name)
  | term (t : Term)

end Draft

/-- A tree that has been read up to some place: the brackets that are open there, the innermost
first, the sum to the left of the current operand, and what was read last. -/
structure Draft where
  frames : List Draft.Frame
  left : Option Expr
  focus : Draft.Focus

/-- The name that letters spell, if they spell one. -/
def Name.ofLetters? : List Char → Option Name
  | [] => none
  | c :: cs =>
    if h : startsName c = true ∧ cs.all continuesName = true then some ⟨c, cs, h.1, h.2⟩ else none

namespace Draft

/-- The draft in which nothing has been read. -/
def blank : Draft :=
  ⟨[], none, .operand⟩

/-- The lexeme that begins an operand. -/
def growOperand (frames : List Frame) (left : Option Expr) : Lexeme → Option Draft
  | .mark c => if c = '[' then some ⟨frames, left, .opened .list⟩ else none
  | .word letters => (Name.ofLetters? letters).map (fun n => ⟨frames, left, .name n⟩)

/-- The mark behind an expression: it goes on in the bracket around it. -/
def growAfterSum (frames : List Frame) (e : Expr) (c : Char) : Option Draft :=
  match frames with
  | [] => none
  | .items opener done left :: frames =>
    if c = ',' then some ⟨.items opener (e :: done) left :: frames, none, .operand⟩
    else if c = opener.closer then some ⟨frames, left, .term (opener.term (e :: done).reverse)⟩
    else none
  | .index base left :: frames =>
    if c = ']' then some ⟨frames, left, .term (.pick base e)⟩ else none

/-- The mark behind a term: a subscript or a plus sign goes on with the sum. -/
def growAfterTerm (frames : List Frame) (left : Option Expr) (t : Term) (c : Char) : Option Draft :=
  if c = '[' then some ⟨.index t left :: frames, none, .operand⟩
  else if c = '+' then some ⟨frames, some (.plus left t), .operand⟩
  else growAfterSum frames (.plus left t) c

/-- The draft with one more lexeme, if an expression may go on with it. -/
def grow (d : Draft) (l : Lexeme) : Option Draft :=
  match d.focus with
  | .operand => growOperand d.frames d.left l
  | .opened opener =>
    if l = .mark opener.closer then some { d with focus := .term (opener.term []) }
    else growOperand (.items opener [] d.left :: d.frames) none l
  | .name n =>
    match l with
    | .word _ => none
    | .mark c =>
      if c = '(' then some { d with focus := .opened (.call n) }
      else growAfterTerm d.frames d.left (.name n) c
  | .term t =>
    match l with
    | .word _ => none
    | .mark c => growAfterTerm d.frames d.left t c

/-- The draft with some more lexemes. -/
def growAll (d : Draft) (ls : List Lexeme) : Option Draft :=
  ls.foldlM grow d

/-- The expression, if the draft may end here. -/
def finish (d : Draft) : Option Expr :=
  match d.frames, d.focus with
  | [], .name n => some (.plus d.left (.name n))
  | [], .term t => some (.plus d.left t)
  | _, _ => none

end Draft

/-- The expression that some lexemes are, if they are one. -/
def Expr.parse (ls : List Lexeme) : Option Expr :=
  (Draft.blank.growAll ls).bind Draft.finish

/-! ## What has been read -/

/-- A name that letters make is the word of these letters. -/
theorem Name.lexeme_ofLetters {letters : List Char} {n : Name} (h : ofLetters? letters = some n) :
    n.lexeme = .word letters := by
  cases letters with
  | nil => simp [ofLetters?] at h
  | cons c cs =>
    simp only [ofLetters?] at h
    split at h
    · obtain rfl := Option.some.inj h
      rfl
    · simp at h

/-- The letters of a name make it. -/
theorem Name.ofLetters_lexeme (n : Name) : ofLetters? (n.first :: n.rest) = some n := by
  simp [ofLetters?, n.first_starts, n.rest_continues]

/-- The lexemes of a sum and of the plus sign behind it. -/
def Expr.leftLexemes : Option Expr → List Lexeme
  | none => []
  | some e => e.lexemes ++ [.mark '+']

namespace Draft

/-- The lexemes of an open bracket. -/
def Frame.lexemes : Frame → List Lexeme
  | items opener done left =>
    Expr.leftLexemes left ++ opener.lexemes ++
      done.reverse.flatMap (fun e => e.lexemes ++ [.mark ','])
  | index base left => Expr.leftLexemes left ++ base.lexemes ++ [.mark '[']

/-- The lexemes of what was read last. -/
def Focus.lexemes : Focus → List Lexeme
  | operand => []
  | opened opener => opener.lexemes
  | name n => [n.lexeme]
  | term t => t.lexemes

/-- All lexemes that have been read. -/
def lexemes (d : Draft) : List Lexeme :=
  d.frames.reverse.flatMap Frame.lexemes ++ (Expr.leftLexemes d.left ++ d.focus.lexemes)

end Draft

/-- Terms behind each other in a sum have their lexemes behind each other. -/
theorem Term.moreLexemes_append (ts us : List Term) :
    moreLexemes (ts ++ us) = moreLexemes ts ++ moreLexemes us := by
  induction ts with
  | nil => rfl
  | cons t ts ih => simp [moreLexemes, ih]

/-- One more term of a sum comes with its lexemes behind those to its left. -/
theorem Expr.plus_lexemes (left : Option Expr) (t : Term) :
    (plus left t).lexemes = leftLexemes left ++ t.lexemes := by
  cases left with
  | none => simp [plus, Term.toExpr, lexemes, leftLexemes, Term.moreLexemes]
  | some e =>
    cases e with
    | sum first rest =>
      simp [plus, lexemes, leftLexemes, Term.moreLexemes_append, Term.moreLexemes]

/-- In front of the last item each item has a comma behind it. -/
theorem Expr.itemLexemes_append (es : List Expr) (e : Expr) :
    itemLexemes (es ++ [e]) = es.flatMap (fun e => e.lexemes ++ [.mark ',']) ++ e.lexemes := by
  induction es with
  | nil => rfl
  | cons first es ih =>
    have more : itemLexemes (first :: (es ++ [e])) =
        first.lexemes ++ .mark ',' :: itemLexemes (es ++ [e]) := by
      cases es <;> rfl
    rw [List.cons_append, more, ih]
    simp

/-- A bracket full of items has the lexemes of its opener, its items and its closer. -/
theorem Opener.term_lexemes (opener : Opener) (items : List Expr) :
    (opener.term items).lexemes =
      opener.lexemes ++ (Expr.itemLexemes items ++ [.mark opener.closer]) := by
  cases opener <;> simp [term, Term.lexemes, lexemes, closer]

namespace Draft

/-- A draft that grows where an operand must begin has one lexeme more. -/
theorem lexemes_growOperand {frames : List Frame} {left : Option Expr} {l : Lexeme} {d : Draft}
    (h : growOperand frames left l = some d) :
    d.lexemes = lexemes ⟨frames, left, .operand⟩ ++ [l] := by
  cases l with
  | mark c =>
    simp only [growOperand] at h
    split_ifs at h with opens
    obtain rfl := Option.some.inj h
    subst opens
    simp [lexemes, Focus.lexemes, Opener.lexemes]
  | word letters =>
    simp only [growOperand, Option.map_eq_some_iff] at h
    obtain ⟨n, spelled, rfl⟩ := h
    simp [lexemes, Focus.lexemes, Name.lexeme_ofLetters spelled]

/-- So has a draft that grows behind a sum. -/
theorem lexemes_growAfterSum {frames : List Frame} {left : Option Expr} {t : Term} {c : Char}
    {d : Draft} (h : growAfterSum frames (.plus left t) c = some d) :
    d.lexemes = lexemes ⟨frames, left, .term t⟩ ++ [.mark c] := by
  cases frames with
  | nil => simp [growAfterSum] at h
  | cons frame frames =>
    cases frame with
    | items opener done outer =>
      simp only [growAfterSum] at h
      split_ifs at h with comma closes
      · obtain rfl := Option.some.inj h
        subst comma
        simp [lexemes, Focus.lexemes, Frame.lexemes, Expr.plus_lexemes, Expr.leftLexemes]
      · obtain rfl := Option.some.inj h
        subst closes
        simp [lexemes, Focus.lexemes, Frame.lexemes, Opener.term_lexemes,
          Expr.itemLexemes_append, Expr.plus_lexemes]
    | index base outer =>
      simp only [growAfterSum] at h
      split_ifs at h with closes
      obtain rfl := Option.some.inj h
      subst closes
      simp [lexemes, Focus.lexemes, Frame.lexemes, Term.lexemes, Expr.plus_lexemes]

/-- So has a draft that grows behind a term. -/
theorem lexemes_growAfterTerm {frames : List Frame} {left : Option Expr} {t : Term} {c : Char}
    {d : Draft} (h : growAfterTerm frames left t c = some d) :
    d.lexemes = lexemes ⟨frames, left, .term t⟩ ++ [.mark c] := by
  simp only [growAfterTerm] at h
  split_ifs at h with opens adds
  · obtain rfl := Option.some.inj h
    subst opens
    simp [lexemes, Focus.lexemes, Frame.lexemes, Expr.leftLexemes]
  · obtain rfl := Option.some.inj h
    subst adds
    simp [lexemes, Focus.lexemes, Expr.leftLexemes, Expr.plus_lexemes]
  · exact lexemes_growAfterSum h

/-- A draft grows by the lexeme that was read. -/
theorem lexemes_grow {d d' : Draft} {l : Lexeme} (h : d.grow l = some d') :
    d'.lexemes = d.lexemes ++ [l] := by
  obtain ⟨frames, left, focus⟩ := d
  cases focus with
  | operand => exact lexemes_growOperand h
  | opened opener =>
    simp only [grow] at h
    split_ifs at h with closes
    · obtain rfl := Option.some.inj h
      subst closes
      simp [lexemes, Focus.lexemes, Opener.term_lexemes, Expr.itemLexemes]
    · rw [lexemes_growOperand h]
      simp [lexemes, Focus.lexemes, Frame.lexemes, Expr.leftLexemes]
  | name n =>
    cases l with
    | word letters => simp [grow] at h
    | mark c =>
      simp only [grow] at h
      split_ifs at h with opens
      · obtain rfl := Option.some.inj h
        subst opens
        simp [lexemes, Focus.lexemes, Opener.lexemes]
      · exact lexemes_growAfterTerm h
  | term t =>
    cases l with
    | word letters => simp [grow] at h
    | mark c => exact lexemes_growAfterTerm h

/-- A draft holds all lexemes that were read, and nothing else. -/
theorem lexemes_growAll {d d' : Draft} {ls : List Lexeme} (h : d.growAll ls = some d') :
    d'.lexemes = d.lexemes ++ ls := by
  induction ls generalizing d with
  | nil =>
    obtain rfl : d = d' := by simpa [growAll] using h
    simp
  | cons l ls ih =>
    simp only [growAll, List.foldlM_cons, Option.bind_eq_bind, Option.bind_eq_some_iff] at h
    obtain ⟨next, grown, h⟩ := h
    rw [ih h, lexemes_grow grown]
    simp

/-- A finished draft is an expression with the same lexemes. -/
theorem lexemes_finish {d : Draft} {e : Expr} (h : d.finish = some e) : e.lexemes = d.lexemes := by
  obtain ⟨frames, left, focus⟩ := d
  cases frames with
  | cons frame frames => simp [finish] at h
  | nil =>
    cases focus with
    | name n =>
      obtain rfl := Option.some.inj h
      simp [lexemes, Focus.lexemes, Expr.plus_lexemes, Term.lexemes]
    | term t =>
      obtain rfl := Option.some.inj h
      simp [lexemes, Focus.lexemes, Expr.plus_lexemes]
    | _ => simp [finish] at h

/-! ## Reading the lexemes of a tree -/

/-- What a term looks like when it was read last. -/
def Focus.ofTerm : Term → Focus
  | .name n => .name n
  | t => .term t

/-- Growing by some lexemes is growing by the first of them and then by the others. -/
theorem growAll_append (d : Draft) (ls ms : List Lexeme) :
    d.growAll (ls ++ ms) = (d.growAll ls).bind (growAll · ms) :=
  List.foldlM_append

/-- Growing by some lexemes begins with the first one. -/
theorem growAll_cons (d : Draft) (l : Lexeme) (ls : List Lexeme) :
    d.growAll (l :: ls) = (d.grow l).bind (growAll · ls) :=
  List.foldlM_cons

/-- Growing by a single lexeme is a step. -/
theorem growAll_singleton (d : Draft) (l : Lexeme) : d.growAll [l] = d.grow l := by
  rw [growAll_cons]
  cases d.grow l <;> rfl

/-- Behind a term, all marks but the one that makes a call are alike for names and other terms. -/
theorem grow_ofTerm (frames : List Frame) (left : Option Expr) (t : Term) {c : Char}
    (h : c ≠ '(') :
    grow ⟨frames, left, .ofTerm t⟩ (.mark c) = growAfterTerm frames left t c := by
  cases t <;> simp [grow, Focus.ofTerm, h]

/-- The closing character of a bracket makes a term of its items. -/
theorem grow_closer (frames : List Frame) (opener : Opener) (done : List Expr)
    (outer left : Option Expr) (t : Term) :
    grow ⟨.items opener done outer :: frames, left, .ofTerm t⟩ (.mark opener.closer) =
      some ⟨frames, outer, .term (opener.term (done.reverse ++ [.plus left t]))⟩ := by
  have parenthesis : opener.closer ≠ '(' := by cases opener <;> simp [Opener.closer]
  have bracket : opener.closer ≠ '[' := by cases opener <;> simp [Opener.closer]
  have plus : opener.closer ≠ '+' := by cases opener <;> simp [Opener.closer]
  have comma : opener.closer ≠ ',' := by cases opener <;> simp [Opener.closer]
  rw [grow_ofTerm _ _ _ parenthesis]
  simp [growAfterTerm, growAfterSum, bracket, plus, comma]

end Draft

/-- A sum with some more terms. -/
def Expr.plusAll : Expr → List Term → Expr
  | .sum first rest, ts => .sum first (rest ++ ts)

/-- A term that is added first is the first of the terms that are added. -/
theorem Expr.plusAll_plus (left : Option Expr) (t u : Term) (ts : List Term) :
    (plus (some (plus left t)) u).plusAll ts = (plus left t).plusAll (u :: ts) := by
  rcases left with _ | ⟨first, rest⟩ <;> simp [plus, plusAll, Term.toExpr]

/-- No term begins with a closing bracket. -/
theorem Term.lexemes_head (t : Term) :
    ∃ l ls, t.lexemes = l :: ls ∧ ∀ opener : Opener, l ≠ .mark opener.closer :=
  match t with
  | .name n => ⟨n.lexeme, [], rfl, fun _ => Lexeme.noConfusion⟩
  | .call n args => ⟨n.lexeme, _, rfl, fun _ => Lexeme.noConfusion⟩
  | .list items => by
    refine ⟨.mark '[', _, rfl, fun opener => ?_⟩
    cases opener <;> simp [Opener.closer]
  | .pick base index => by
    obtain ⟨l, ls, begins, h⟩ := Term.lexemes_head base
    exact ⟨l, _, by rw [Term.lexemes, begins, List.cons_append], h⟩

/-- No expression begins with a closing bracket. -/
theorem Expr.lexemes_head (e : Expr) :
    ∃ l ls, e.lexemes = l :: ls ∧ ∀ opener : Opener, l ≠ .mark opener.closer := by
  cases e with
  | sum first rest =>
    obtain ⟨l, ls, begins, h⟩ := first.lexemes_head
    exact ⟨l, _, by rw [lexemes, begins, List.cons_append], h⟩

namespace Draft

/-- Behind an opening bracket come the items of the bracket, if it has some. -/
theorem growAll_opened {es : List Expr} {frames : List Frame} {left : Option Expr}
    {opener : Opener}
    (items : es ≠ [] →
      growAll ⟨.items opener [] left :: frames, none, .operand⟩
          (Expr.itemLexemes es ++ [.mark opener.closer]) =
        some ⟨frames, left, .term (opener.term es)⟩) :
    growAll ⟨frames, left, .opened opener⟩ (Expr.itemLexemes es ++ [.mark opener.closer]) =
      some ⟨frames, left, .term (opener.term es)⟩ := by
  cases es with
  | nil =>
    rw [Expr.itemLexemes, List.nil_append, growAll_singleton]
    simp [grow]
  | cons e es =>
    rw [← items (List.cons_ne_nil e es)]
    obtain ⟨l, ls, begins, h⟩ := e.lexemes_head
    obtain ⟨ms, spelled⟩ : ∃ ms, Expr.itemLexemes (e :: es) = e.lexemes ++ ms := by
      cases es with
      | nil => exact ⟨[], by simp [Expr.itemLexemes]⟩
      | cons e' es => exact ⟨_, rfl⟩
    rw [spelled, begins, List.cons_append, List.cons_append, growAll_cons, growAll_cons]
    simp [grow, h opener]

end Draft

open Draft

mutual

/-- A draft grows by the lexemes of a term into one with that term. -/
theorem Term.growAll_lexemes (t : Term) (frames : List Frame) (left : Option Expr) :
    growAll ⟨frames, left, .operand⟩ t.lexemes = some ⟨frames, left, .ofTerm t⟩ :=
  match t with
  | .name n => by
    rw [Term.lexemes, growAll_singleton]
    simp [grow, growOperand, Name.lexeme, n.ofLetters_lexeme, Focus.ofTerm]
  | .call n args => by
    have opened : growAll ⟨frames, left, .operand⟩ [n.lexeme, .mark '('] =
        some ⟨frames, left, .opened (.call n)⟩ := by
      simp [grow, growOperand, Name.lexeme, n.ofLetters_lexeme, growAll]
    have spelled : (Term.call n args).lexemes =
        [n.lexeme, .mark '('] ++ (Expr.itemLexemes args ++ [.mark (Opener.call n).closer]) := by
      simp [Term.lexemes, Opener.closer]
    rw [spelled, growAll_append, opened, Option.bind_some,
      growAll_opened (Expr.growAll_items args frames left (.call n) []), Opener.term]
    rfl
  | .list items => by
    have spelled : (Term.list items).lexemes =
        .mark '[' :: (Expr.itemLexemes items ++ [.mark Opener.list.closer]) := by
      simp [Term.lexemes, Opener.closer]
    have opened : grow ⟨frames, left, .operand⟩ (.mark '[') =
        some ⟨frames, left, .opened .list⟩ := rfl
    rw [spelled, growAll_cons, opened, Option.bind_some,
      growAll_opened (Expr.growAll_items items frames left .list []), Opener.term]
    rfl
  | .pick base index => by
    obtain ⟨inner, u, grown, sum⟩ := Expr.growAll_lexemes index (.index base left :: frames)
    have opens : grow ⟨frames, left, .ofTerm base⟩ (.mark '[') =
        some ⟨.index base left :: frames, none, .operand⟩ := by
      rw [grow_ofTerm _ _ _ (by decide)]
      rfl
    have closes : grow ⟨.index base left :: frames, inner, .ofTerm u⟩ (.mark ']') =
        some ⟨frames, left, .term (.pick base index)⟩ := by
      rw [grow_ofTerm _ _ _ (by decide)]
      simp [growAfterTerm, growAfterSum, sum]
    rw [Term.lexemes, growAll_append, Term.growAll_lexemes base, Option.bind_some, growAll_cons,
      opens, Option.bind_some, growAll_append, grown, Option.bind_some, growAll_singleton, closes]
    rfl

/-- A draft grows by the lexemes of an expression into one with the last term of that expression
and the sum to the left of it. -/
theorem Expr.growAll_lexemes (e : Expr) (frames : List Frame) :
    ∃ left t, growAll ⟨frames, none, .operand⟩ e.lexemes = some ⟨frames, left, .ofTerm t⟩ ∧
      Expr.plus left t = e :=
  match e with
  | .sum first rest => by
    obtain ⟨left, t, grown, sum⟩ := Term.growAll_more rest frames none first
    refine ⟨left, t, ?_, sum⟩
    rw [Expr.lexemes, growAll_append, Term.growAll_lexemes first, Option.bind_some, grown]

/-- A draft grows by the further terms of a sum, to the sum with them. -/
theorem Term.growAll_more (ts : List Term) (frames : List Frame) (left : Option Expr) (t : Term) :
    ∃ left' t', growAll ⟨frames, left, .ofTerm t⟩ (Term.moreLexemes ts) =
        some ⟨frames, left', .ofTerm t'⟩ ∧
      Expr.plus left' t' = (Expr.plus left t).plusAll ts :=
  match ts with
  | [] => by
    refine ⟨left, t, rfl, ?_⟩
    rcases left with _ | ⟨first, rest⟩ <;> simp [Expr.plus, Expr.plusAll, Term.toExpr]
  | u :: ts => by
    obtain ⟨left', t', grown, sum⟩ :=
      Term.growAll_more ts frames (some (.plus left t)) u
    refine ⟨left', t', ?_, by rw [sum, Expr.plusAll_plus]⟩
    have adds : grow ⟨frames, left, .ofTerm t⟩ (.mark '+') =
        some ⟨frames, some (.plus left t), .operand⟩ := by
      rw [grow_ofTerm _ _ _ (by decide)]
      rfl
    rw [Term.moreLexemes, growAll_cons, adds, Option.bind_some, growAll_append,
      Term.growAll_lexemes u, Option.bind_some, grown]

/-- A draft grows by the items of a bracket and its closing character, to the term that they
make. -/
theorem Expr.growAll_items (es : List Expr) (frames : List Frame) (outer : Option Expr)
    (opener : Opener) (done : List Expr) (nonempty : es ≠ []) :
    growAll ⟨.items opener done outer :: frames, none, .operand⟩
        (Expr.itemLexemes es ++ [.mark opener.closer]) =
      some ⟨frames, outer, .term (opener.term (done.reverse ++ es))⟩ :=
  match es with
  | [] => absurd rfl nonempty
  | [e] => by
    obtain ⟨left, t, grown, sum⟩ := Expr.growAll_lexemes e (.items opener done outer :: frames)
    rw [Expr.itemLexemes, growAll_append, grown, Option.bind_some, growAll_singleton,
      grow_closer, sum]
  | e :: e' :: es => by
    obtain ⟨left, t, grown, sum⟩ := Expr.growAll_lexemes e (.items opener done outer :: frames)
    have next : grow ⟨.items opener done outer :: frames, left, .ofTerm t⟩ (.mark ',') =
        some ⟨.items opener (e :: done) outer :: frames, none, .operand⟩ := by
      rw [grow_ofTerm _ _ _ (by decide)]
      simp [growAfterTerm, growAfterSum, sum]
    have spelled : Expr.itemLexemes (e :: e' :: es) =
        e.lexemes ++ .mark ',' :: Expr.itemLexemes (e' :: es) := rfl
    rw [spelled, List.append_assoc, growAll_append, grown, Option.bind_some, List.cons_append,
      growAll_cons, next, Option.bind_some,
      Expr.growAll_items (e' :: es) frames outer opener (e :: done) (List.cons_ne_nil _ _)]
    simp

end

/-- Parsing undoes writing as lexemes, and nothing else can be parsed. -/
theorem Expr.parse_eq_some_iff {ls : List Lexeme} {e : Expr} :
    parse ls = some e ↔ e.lexemes = ls := by
  constructor
  · intro h
    obtain ⟨d, grown, finished⟩ := Option.bind_eq_some_iff.mp h
    rw [lexemes_finish finished, lexemes_growAll grown]
    simp [blank, Draft.lexemes, leftLexemes, Focus.lexemes]
  · rintro rfl
    obtain ⟨left, t, grown, sum⟩ := e.growAll_lexemes []
    rw [parse, blank, grown, Option.bind_some, ← sum]
    cases t <;> rfl

/-- An expression is determined by its lexemes. -/
theorem Expr.lexemes_injective {e e' : Expr} (h : e.lexemes = e'.lexemes) : e = e' := by
  have parsed : parse e'.lexemes = some e := parse_eq_some_iff.mpr h
  have own : parse e'.lexemes = some e' := parse_eq_some_iff.mpr rfl
  exact Option.some.inj (parsed.symm.trans own)

end Lipogram
