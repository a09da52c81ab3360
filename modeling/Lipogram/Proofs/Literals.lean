import Lipogram.Text.Literal.Reader
import Lipogram.Proofs.Scanning
import Lipogram.Value
import Mathlib.Tactic.SplitIfs

/-!
# Literals

No two values have the same literal. The literal of a text is read back as that text, whatever
follows it (`readLiteral_append`), and holds no control character (`literal_reads_back`). The
literal of any value can be told from what follows it, as long as that is no digit, so the items of
a list are found again between their commas (`literal_unique`); from there it follows that printed
lists are equal only if their items are.
-/

set_option autoImplicit false

namespace Lipogram

/-! ## Texts -/

namespace Text

/-- A hexadecimal digit is read as the number that it was written for. -/
theorem hexDigit_value : ∀ n < 16, hexDigit? (hexDigit n) = some n := by
  decide

/-- The marks between which a literal can stand. -/
def IsMark (mark : Char) : Prop :=
  mark = '\x27' ∨ mark = '\x22'

/-- The quote around a text is one of the two marks. -/
theorem isMark_quoteMark (cs : List Char) : IsMark (quoteMark cs) := by
  unfold quoteMark
  split
  · exact .inr rfl
  · exact .inl rfl

/-- A character put in front of what has been read, and what is left. -/
def putFront (c : Char) (read : List Char × List Char) : List Char × List Char :=
  (c :: read.1, read.2)

variable {mark : Char}

/-- An escaped letter is read as the character that it stands for. -/
theorem read_escape {letter c : Char} (known : unescape? letter = some c) (rest : List Char) :
    readLiteralBody mark ('\x5c' :: letter :: rest) =
      (readLiteralBody mark rest).map (putFront c) := by
  have no_code : letter ≠ 'x' := by
    rintro rfl
    simp [unescape?] at known
  rw [readLiteralBody.eq_3 _ _ _ (fun _ _ _ code => absurd code no_code), known]
  cases readLiteralBody mark rest <;> rfl

/-- A code in two hexadecimal digits is read as the character that has it. -/
theorem read_code {high low : Nat} (high_lt : high < 16) (low_lt : low < 16) (rest : List Char) :
    readLiteralBody mark ('\x5c' :: 'x' :: hexDigit high :: hexDigit low :: rest) =
      (readLiteralBody mark rest).map (putFront (Char.ofNat (16 * high + low))) := by
  rw [readLiteralBody, hexDigit_value high high_lt, hexDigit_value low low_lt]
  cases readLiteralBody mark rest <;> rfl

/-- A character that is neither a backslash nor the mark is read as itself. -/
theorem read_plain {c : Char} (no_escape : c ≠ '\x5c') (no_mark : c ≠ mark) (rest : List Char) :
    readLiteralBody mark (c :: rest) = (readLiteralBody mark rest).map (putFront c) := by
  rw [readLiteralBody.eq_4 _ _ _ (fun _ _ _ escape => absurd escape no_escape)
    (fun _ _ escape => absurd escape no_escape), if_neg no_mark]
  cases readLiteralBody mark rest <;> rfl

/-- The mark ends the literal. -/
theorem read_mark (isMark : IsMark mark) (rest : List Char) :
    readLiteralBody mark (mark :: rest) = some ([], rest) := by
  have no_escape : mark ≠ '\x5c' := by
    rcases isMark with rfl | rfl <;> decide
  rw [readLiteralBody.eq_4 _ _ _ (fun _ _ _ escape => absurd escape no_escape)
    (fun _ _ escape => absurd escape no_escape), if_pos rfl]

/-- What is written for a character is read as that character. -/
theorem readLiteral_char (isMark : IsMark mark) (c : Char) (rest : List Char) :
    readLiteralBody mark (literalChar mark c ++ rest) =
      (readLiteralBody mark rest).map (putFront c) := by
  unfold literalChar
  split_ifs with backslash newline carriage tab same control
  · subst backslash
    exact read_escape rfl rest
  · subst newline
    exact read_escape rfl rest
  · subst carriage
    exact read_escape rfl rest
  · subst tab
    exact read_escape rfl rest
  · subst same
    rcases isMark with rfl | rfl <;> exact read_escape rfl rest
  · -- two digits of base sixteen hold the code of every control character
    have small : c.toNat < 0x80 := by
      simp only [isControl, Bool.or_eq_true, decide_eq_true_eq, beq_iff_eq] at control
      omega
    have code : Char.ofNat (16 * (c.toNat / 16) + c.toNat % 16) = c := by
      rw [Nat.div_add_mod]
      exact Char.ofNat_toNat c
    have read := @read_code mark (c.toNat / 16) (c.toNat % 16) (by omega) (by omega) rest
    rw [code] at read
    exact read
  · exact read_plain backslash same rest

/-- Reading undoes the spelling of characters up to the closing mark. -/
theorem readLiteralBody_flatMap (isMark : IsMark mark) (cs rest : List Char) :
    readLiteralBody mark (cs.flatMap (literalChar mark) ++ mark :: rest) = some (cs, rest) := by
  induction cs with
  | nil => exact read_mark isMark rest
  | cons c cs ih =>
    rw [List.flatMap_cons, List.append_assoc, readLiteral_char isMark, ih]
    rfl

/-- Reading undoes writing, whatever follows the literal. -/
theorem readLiteral_append (cs rest : List Char) :
    readLiteral (literalChars cs ++ rest) = some (cs, rest) := by
  have isMark := isMark_quoteMark cs
  have body := readLiteralBody_flatMap isMark cs rest
  have spelled : literalChars cs ++ rest =
      quoteMark cs :: (cs.flatMap (literalChar (quoteMark cs)) ++ quoteMark cs :: rest) := by
    simp [literalChars]
  rw [spelled]
  rcases isMark with apostrophe | double
  · rw [apostrophe] at body ⊢
    exact body
  · rw [double] at body ⊢
    exact body

/-- No hexadecimal digit is a control character. -/
theorem hexDigit_visible : ∀ n < 16, isControl (hexDigit n) = false := by
  decide

/-- No control character is written for a character. -/
theorem literalChar_visible (isMark : IsMark mark) {c d : Char} (mem : d ∈ literalChar mark c) :
    isControl d = false := by
  have all_visible {ds : List Char} (h : ds.all (fun d => !isControl d) = true) (inside : d ∈ ds) :
      isControl d = false := by
    simpa using List.all_eq_true.mp h d inside
  unfold literalChar at mem
  split_ifs at mem with backslash newline carriage tab same control
  · exact all_visible rfl mem
  · exact all_visible rfl mem
  · exact all_visible rfl mem
  · exact all_visible rfl mem
  · subst same
    rcases isMark with rfl | rfl <;> exact all_visible rfl mem
  · have small : c.toNat < 0x80 := by
      simp only [isControl, Bool.or_eq_true, decide_eq_true_eq, beq_iff_eq] at control
      omega
    have high := hexDigit_visible (c.toNat / 16) (by omega)
    have low := hexDigit_visible (c.toNat % 16) (by omega)
    refine all_visible ?_ mem
    simp only [List.all_cons, high, low]
    rfl
  · obtain rfl := List.mem_singleton.mp mem
    simpa using control

/-- A literal stands between double quotes exactly if its text holds an apostrophe and no double
quote. -/
theorem quoteMark_eq_double (cs : List Char) :
    quoteMark cs = '\x22' ↔ '\x27' ∈ cs ∧ '\x22' ∉ cs := by
  unfold quoteMark
  split_ifs with double
  · simpa using double
  · simpa using double

/-- The literal of a text holds no control character, it is read to its end as the text, and its
first character, the mark, is a double quote exactly if the text holds an apostrophe and no double
quote. -/
theorem literal_reads_back (text : String) :
    (∀ c ∈ (literal text).toList, ¬(c.toNat < 0x20 ∨ c.toNat = 0x7F)) ∧
      readLiteral (literal text).toList = some (text.toList, []) ∧
      ((literal text).toList.head? = some '\x22' ↔
        '\x27' ∈ text.toList ∧ '\x22' ∉ text.toList) := by
  have spelled : (literal text).toList = literalChars text.toList := String.toList_ofList
  have isMark := isMark_quoteMark text.toList
  have mark_visible : isControl (quoteMark text.toList) = false := by
    rcases isMark with mark | mark <;> rw [mark] <;> rfl
  rw [spelled]
  refine ⟨fun c mem => ?_, ?_, ?_⟩
  · have visible : isControl c = false := by
      simp only [literalChars, List.mem_cons, List.mem_append, List.mem_flatMap, List.not_mem_nil,
        or_false] at mem
      rcases mem with rfl | ⟨d, -, inside⟩ | rfl
      · exact mark_visible
      · exact literalChar_visible isMark inside
      · exact mark_visible
    simpa [isControl] using visible
  · simpa using readLiteral_append text.toList []
  · rw [literalChars, List.head?_cons, Option.some_inj, quoteMark_eq_double]

end Text

/-! ## Splits -/

/-- Two splits of one list behind members of a class are the same split if both go on with no member
of the class. -/
theorem split_unique {α : Type} {p : α → Bool} {as bs cs ds : List α}
    (has : ∀ a ∈ as, p a = true) (hbs : ∀ b ∈ bs, p b = true)
    (hcs : ∀ c ∈ cs.head?, p c = false) (hds : ∀ d ∈ ds.head?, p d = false)
    (h : as ++ cs = bs ++ ds) : as = bs ∧ cs = ds := by
  have none_of_head {es : List α} (hes : ∀ e ∈ es.head?, p e = false) : es.takeWhile p = [] := by
    cases es with
    | nil => rfl
    | cons e es => simp [hes e (by simp)]
  have first : as = bs := by
    have taken := congrArg (List.takeWhile p) h
    rw [List.takeWhile_append_of_pos has, List.takeWhile_append_of_pos hbs, none_of_head hcs,
      none_of_head hds] at taken
    simpa using taken
  subst first
  exact ⟨rfl, List.append_cancel_left h⟩

namespace Builtin

/-- Built-ins that are printed alike are the same. -/
theorem text_injective {f g : Builtin} (h : f.text = g.text) : f = g := by
  revert h
  cases f <;> cases g <;> decide

/-- The printed form of a built-in ends with its only closing angle bracket. -/
theorem text_closed (f : Builtin) :
    ∃ body, f.text.toList = body ++ ['>'] ∧ ∀ c ∈ body, (c != '>') = true := by
  have inside : f.text.toList.dropLast.all (· != '>') = true := by
    cases f <;> rfl
  refine ⟨f.text.toList.dropLast, ?_, List.all_eq_true.mp inside⟩
  cases f <;> rfl

/-- A printed built-in can be told from all others, whatever stands behind it. -/
theorem text_unique {f g : Builtin} {rest rest' : List Char}
    (h : f.text.toList ++ rest = g.text.toList ++ rest') : f = g ∧ rest = rest' := by
  obtain ⟨body, left, inside⟩ := f.text_closed
  obtain ⟨body', right, inside'⟩ := g.text_closed
  have bracket (cs : List Char) : ∀ c ∈ ('>' :: cs).head?, (c != '>') = false := by simp
  rw [left, right, List.append_assoc, List.append_assoc] at h
  obtain ⟨same, rests⟩ := split_unique inside inside' (bracket rest) (bracket rest') h
  refine ⟨text_injective (String.toList_injective ?_), (List.cons.inj rests).2⟩
  rw [left, right, same]

end Builtin

/-! ## Values -/

namespace Value

/-- What may follow a literal: no digit, which would go on with a number. -/
def EndsLiteral (rest : List Char) : Prop :=
  ∀ c ∈ rest.head?, c.isDigit = false

/-- A character that is no digit may follow a literal. -/
theorem endsLiteral_cons {c : Char} (h : c.isDigit = false) (rest : List Char) :
    EndsLiteral (c :: rest) := by
  simpa [EndsLiteral] using h

/-- The literal of an integer: its sign and its digits. -/
theorem literal_int (n : Int) :
    (int n).literal.toList = (if n < 0 then ['-'] else []) ++ Nat.toDigits 10 n.natAbs := by
  rw [literal, Int.toString_eq_repr, Int.repr_eq_if]
  by_cases negative : n < 0
  · have size : (-n).toNat = n.natAbs := by omega
    rw [if_neg (by omega), if_pos negative, size, String.toList_append, Nat.toList_repr]
    rfl
  · have size : n.toNat = n.natAbs := by omega
    rw [if_pos (by omega), if_neg negative, size, Nat.toList_repr, List.nil_append]

/-- The literal of a list: the literals of its items in brackets, with commas between them. -/
theorem literal_list (items : List Value) :
    (list items).literal.toList =
      '[' :: ((", ".intercalate (items.map literal)).toList ++ [']']) := by
  rw [literal]
  simp

/-- A number has a first digit. -/
theorem digits_first (n : Nat) : ∃ d ds, Nat.toDigits 10 n = d :: ds ∧ d.isDigit = true := by
  cases digits : Nat.toDigits 10 n with
  | nil => exact absurd digits Nat.toDigits_ne_nil
  | cons d ds =>
    have mem : d ∈ Nat.toDigits 10 n := by simp [digits]
    exact ⟨d, ds, rfl, Nat.isDigit_of_mem_toDigits (by decide) (by decide) mem⟩

/-! ### Forms of literals -/

/-- The five forms that literals have. -/
inductive Form where
  | number
  | truth
  | text
  | list
  | builtin

/-- The form of the literals that begin with a character. -/
def Form.ofFirst? (c : Char) : Option Form :=
  if c = '-' || c.isDigit then some number
  else if c = 'T' || c = 'F' then some truth
  else if c = '\x27' || c = '\x22' then some text
  else if c = '[' then some list
  else if c = '<' then some builtin
  else none

/-- The form of a value's literal. -/
def form : Value → Form
  | int _ => .number
  | bool _ => .truth
  | str _ => .text
  | list _ => .list
  | builtin _ => .builtin

/-- The first character of a literal tells its form. -/
theorem literal_first (v : Value) :
    ∃ c cs, v.literal.toList = c :: cs ∧ Form.ofFirst? c = some v.form := by
  cases v with
  | int n =>
    rw [literal_int]
    split
    · exact ⟨'-', _, rfl, rfl⟩
    · obtain ⟨d, ds, digits, digit⟩ := digits_first n.natAbs
      rw [digits]
      exact ⟨d, ds, rfl, by simp [Form.ofFirst?, digit, form]⟩
  | bool b => cases b <;> exact ⟨_, _, by rw [literal]; rfl, rfl⟩
  | str s =>
    refine ⟨Text.quoteMark s.toList, _, by rw [literal, Text.literal, String.toList_ofList]; rfl, ?_⟩
    rcases Text.isMark_quoteMark s.toList with mark | mark <;> rw [mark] <;> rfl
  | list items => exact ⟨'[', _, literal_list items, rfl⟩
  | builtin f => cases f <;> exact ⟨_, _, by rw [literal]; rfl, rfl⟩

/-- Values with the same literal are of the same form. -/
theorem form_unique {v w : Value} {rest rest' : List Char}
    (h : v.literal.toList ++ rest = w.literal.toList ++ rest') : v.form = w.form := by
  obtain ⟨c, cs, left, first⟩ := v.literal_first
  obtain ⟨d, ds, right, second⟩ := w.literal_first
  rw [left, right, List.cons_append, List.cons_append] at h
  rw [(List.cons.inj h).1, second] at first
  exact (Option.some.inj first).symm

/-- A closing bracket begins no literal. -/
theorem closer_ne_literal (v : Value) (cs rest : List Char) :
    ']' :: cs ≠ v.literal.toList ++ rest := by
  intro h
  obtain ⟨c, ds, spelled, first⟩ := v.literal_first
  rw [spelled, List.cons_append] at h
  obtain rfl := (List.cons.inj h).1
  simp [Form.ofFirst?] at first

/-! ### One literal for each value -/

variable {rest rest' : List Char}

/-- The digits of a number can be told from what stands behind them. -/
theorem digits_unique {m n : Nat} (ends : EndsLiteral rest) (ends' : EndsLiteral rest')
    (h : Nat.toDigits 10 m ++ rest = Nat.toDigits 10 n ++ rest') : m = n ∧ rest = rest' := by
  have digits (k : Nat) : ∀ c ∈ Nat.toDigits 10 k, c.isDigit = true := by
    intro c mem
    exact Nat.isDigit_of_mem_toDigits (by decide) (by decide) mem
  obtain ⟨same, rests⟩ := split_unique (digits m) (digits n) ends ends' h
  have number := congrArg (fun cs => Nat.ofDigitChars 10 cs 0) same
  simp only [Nat.ofDigitChars_ten_toDigits] at number
  exact ⟨number, rests⟩

/-- The digits of a number do not begin with a minus sign. -/
theorem minus_ne_digits (n : Nat) (cs : List Char) : '-' :: cs ≠ Nat.toDigits 10 n ++ rest := by
  intro h
  obtain ⟨d, ds, digits, digit⟩ := digits_first n
  rw [digits, List.cons_append] at h
  obtain rfl := (List.cons.inj h).1
  exact absurd digit (by decide)

/-- The literal of an integer can be told from what stands behind it. -/
theorem int_unique {m n : Int} (ends : EndsLiteral rest) (ends' : EndsLiteral rest')
    (h : (int m).literal.toList ++ rest = (int n).literal.toList ++ rest') :
    m = n ∧ rest = rest' := by
  rw [literal_int, literal_int] at h
  split_ifs at h with left right right
  · obtain ⟨size, rests⟩ := digits_unique ends ends' (List.cons.inj h).2
    exact ⟨by omega, rests⟩
  · exact absurd h (minus_ne_digits _ _)
  · exact absurd h.symm (minus_ne_digits _ _)
  · obtain ⟨size, rests⟩ := digits_unique ends ends' h
    exact ⟨by omega, rests⟩

/-- So can the literal of a truth value. -/
theorem bool_unique {a b : Bool}
    (h : (bool a).literal.toList ++ rest = (bool b).literal.toList ++ rest') :
    a = b ∧ rest = rest' := by
  match a, b with
  | true, true | false, false => exact ⟨rfl, List.append_cancel_left h⟩
  | true, false | false, true => simp [literal] at h

/-- So can the literal of a text. -/
theorem str_unique {s t : String}
    (h : (str s).literal.toList ++ rest = (str t).literal.toList ++ rest') :
    s = t ∧ rest = rest' := by
  rw [literal, literal, Text.literal, Text.literal, String.toList_ofList, String.toList_ofList] at h
  have read := congrArg Text.readLiteral h
  rw [Text.readLiteral_append, Text.readLiteral_append] at read
  obtain ⟨same, rests⟩ := Prod.mk.inj (Option.some.inj read)
  exact ⟨String.toList_injective same, rests⟩

/-- The items of a list behind the first one, as they are printed. -/
def moreLiterals (vs : List Value) : List Char :=
  vs.flatMap (fun v => ',' :: ' ' :: v.literal.toList)

/-- What stands behind an item of a list is no digit. -/
theorem ends_more (vs : List Value) (rest : List Char) :
    EndsLiteral (moreLiterals vs ++ ']' :: rest) := by
  cases vs with
  | nil => exact endsLiteral_cons rfl rest
  | cons v vs => exact endsLiteral_cons rfl _

/-- The literal of a list that is not empty begins with that of its first item. -/
theorem literal_items (v : Value) (vs : List Value) (rest : List Char) :
    (list (v :: vs)).literal.toList ++ rest =
      '[' :: (v.literal.toList ++ (moreLiterals vs ++ ']' :: rest)) := by
  rw [literal_list, List.map_cons, intercalate_toList, List.flatMap_map]
  simp [moreLiterals]

mutual

/-- A literal tells its value, and where it ends. -/
theorem literal_unique (v w : Value) {rest rest' : List Char} (ends : EndsLiteral rest)
    (ends' : EndsLiteral rest') (h : v.literal.toList ++ rest = w.literal.toList ++ rest') :
    v = w ∧ rest = rest' := by
  -- values of different forms differ in the first character of their literals
  have same_form := form_unique h
  match v with
  | .int m =>
    cases w with
    | int n =>
      obtain ⟨rfl, rests⟩ := int_unique ends ends' h
      exact ⟨rfl, rests⟩
    | _ => cases same_form
  | .bool a =>
    cases w with
    | bool b =>
      obtain ⟨rfl, rests⟩ := bool_unique h
      exact ⟨rfl, rests⟩
    | _ => cases same_form
  | .str s =>
    cases w with
    | str t =>
      obtain ⟨rfl, rests⟩ := str_unique h
      exact ⟨rfl, rests⟩
    | _ => cases same_form
  | .builtin f =>
    cases w with
    | builtin g =>
      rw [literal, literal] at h
      obtain ⟨rfl, rests⟩ := Builtin.text_unique h
      exact ⟨rfl, rests⟩
    | _ => cases same_form
  | .list [] =>
    cases w with
    | list ws =>
      cases ws with
      | nil => exact ⟨rfl, List.append_cancel_left h⟩
      | cons w ws =>
        rw [literal_items, literal_list] at h
        exact absurd (List.cons.inj h).2 (closer_ne_literal w _ _)
    | _ => cases same_form
  | .list (v :: vs) =>
    cases w with
    | list ws =>
      cases ws with
      | nil =>
        rw [literal_items, literal_list] at h
        exact absurd (List.cons.inj h).2.symm (closer_ne_literal v _ _)
      | cons w ws =>
        rw [literal_items, literal_items] at h
        obtain ⟨rfl, behind⟩ :=
          literal_unique v w (ends_more vs rest) (ends_more ws rest') (List.cons.inj h).2
        obtain ⟨rfl, rests⟩ := more_unique vs ws behind
        exact ⟨rfl, rests⟩
    | _ => cases same_form

/-- The literals of further items can be told from what stands behind the list. -/
theorem more_unique (vs ws : List Value) {rest rest' : List Char}
    (h : moreLiterals vs ++ ']' :: rest = moreLiterals ws ++ ']' :: rest') :
    vs = ws ∧ rest = rest' := by
  match vs, ws with
  | [], [] => exact ⟨rfl, (List.cons.inj h).2⟩
  | [], w :: ws => exact absurd (List.cons.inj h).1 (by decide)
  | v :: vs, [] => exact absurd (List.cons.inj h).1 (by decide)
  | v :: vs, w :: ws =>
    simp only [moreLiterals, List.flatMap_cons, List.append_assoc, List.cons_append,
      List.cons.injEq, true_and] at h
    obtain ⟨rfl, behind⟩ := literal_unique v w (ends_more vs rest) (ends_more ws rest') h
    obtain ⟨rfl, rests⟩ := more_unique vs ws behind
    exact ⟨rfl, rests⟩

end

/-- Printing is unambiguous: values with the same literal are equal, and lists that are printed
alike are equal item by item. -/
theorem literal_eq_iff :
    (∀ v w : Value, v.literal = w.literal ↔ v = w) ∧
      ∀ items items' : List Value, (list items).text = (list items').text ↔ items = items' := by
  have ends : EndsLiteral [] := by simp [EndsLiteral]
  have injective (v w : Value) (h : v.literal = w.literal) : v = w := by
    have spelled : v.literal.toList ++ [] = w.literal.toList ++ [] := by rw [h]
    exact (literal_unique v w ends ends spelled).1
  refine ⟨fun v w => ⟨injective v w, congrArg literal⟩, fun items items' => ⟨fun h => ?_, ?_⟩⟩
  · exact list.inj (injective (.list items) (.list items') h)
  · intro same
    rw [same]

end Value

end Lipogram
