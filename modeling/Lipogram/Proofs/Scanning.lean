import Lipogram.Lexeme

/-!
# Scanning of written expressions

Every lexeme of a source is proper: its words are names, and its marks are neither blanks nor
letters. Scanning undoes writing: the lexemes of the written form of an expression are the lexemes
of the expression (`ofSource_text`).
-/

set_option autoImplicit false

namespace Lipogram

/-- A character that may begin a name may also stand inside one. -/
theorem continues_of_starts {c : Char} (h : startsName c = true) : continuesName c = true := by
  simp only [startsName, continuesName, Bool.or_eq_true, Char.isAlphanum] at h ⊢
  exact h.imp_left .inl

/-- Every character of a name may stand inside a name. -/
theorem Name.continues_of_mem (n : Name) {c : Char} (h : c ∈ n.text.toList) :
    continuesName c = true := by
  unfold text at h
  rw [String.toList_ofList] at h
  rcases List.mem_cons.mp h with rfl | inside
  · exact continues_of_starts n.first_starts
  · exact List.all_eq_true.mp n.rest_continues c inside

namespace Lexeme

/-- A word is proper if it is a name, and a mark if it is no blank and begins no name. -/
def IsProper : Lexeme → Prop
  | word letters => ∃ n : Name, n.lexeme = .word letters
  | mark c => Text.isBlank c = false ∧ startsName c = false

/-- A word that is still being scanned, its last letter first, is empty or a name so far. -/
def IsOpenWord (letters : List Char) : Prop :=
  letters = [] ∨ ∃ n : Name, n.first :: n.rest = letters.reverse

/-- A word that has not ended may go on with one more letter. -/
theorem isOpenWord_cons {letters : List Char} {c : Char} (isOpen : IsOpenWord letters)
    (h : (if letters.isEmpty then startsName c else continuesName c) = true) :
    IsOpenWord (c :: letters) := by
  right
  rcases isOpen with rfl | ⟨n, spelled⟩
  · exact ⟨⟨c, [], h, rfl⟩, rfl⟩
  · have nonempty : letters.isEmpty = false := by
      cases letters with
      | nil => simp at spelled
      | cons => rfl
    simp only [nonempty, Bool.false_eq_true, if_false] at h
    refine ⟨⟨n.first, n.rest ++ [c], n.first_starts, ?_⟩, ?_⟩
    · simp [n.rest_continues, h]
    · simp [← spelled]

/-- A word that ends is a proper lexeme. -/
theorem proper_of_mem_ended {letters : List Char} (isOpen : IsOpenWord letters) {l : Lexeme}
    (h : l ∈ scan.ended letters) : l.IsProper := by
  rcases isOpen with rfl | ⟨n, spelled⟩
  · simp [scan.ended] at h
  · simp only [scan.ended] at h
    split at h
    · simp at h
    · rw [List.mem_singleton] at h
      subst h
      exact ⟨n, congrArg Lexeme.word spelled⟩

/-- A character behind an open word that does not go on with it begins no name. -/
theorem starts_eq_false {letters : List Char} {c : Char}
    (h : ¬(if letters.isEmpty then startsName c else continuesName c) = true) :
    startsName c = false := by
  cases starts : startsName c with
  | false => rfl
  | true =>
    refine absurd ?_ h
    split
    · exact starts
    · exact continues_of_starts starts

/-- Scanning finds only proper lexemes. -/
theorem proper_of_mem_scan {letters cs : List Char} (isOpen : IsOpenWord letters) {l : Lexeme}
    (h : l ∈ scan letters cs) : l.IsProper := by
  induction cs generalizing letters with
  | nil => exact proper_of_mem_ended isOpen h
  | cons c cs ih =>
    rw [scan] at h
    by_cases inside : (if letters.isEmpty then startsName c else continuesName c) = true
    · rw [if_pos inside] at h
      exact ih (isOpenWord_cons isOpen inside) h
    · rw [if_neg inside] at h
      split at h
      · rcases List.mem_append.mp h with h | h
        · exact proper_of_mem_ended isOpen h
        · exact ih (.inl rfl) h
      · next notBlank =>
        rcases List.mem_append.mp h with h | h
        · exact proper_of_mem_ended isOpen h
        · rcases List.mem_cons.mp h with rfl | h
          · exact ⟨by simpa using notBlank, starts_eq_false inside⟩
          · exact ih (.inl rfl) h

/-- The lexemes of a source are proper. -/
theorem proper_of_mem_source {source : String} {l : Lexeme} (h : l ∈ ofSource source) :
    l.IsProper :=
  proper_of_mem_scan (.inl rfl) h

/-- What may stand behind a name: nothing, or a character that does not go on with it. -/
def EndsWord (cs : List Char) : Prop :=
  ∀ c ∈ cs.head?, continuesName c = false

/-- What ends a word begins none. -/
theorem starts_eq_false_of_ends {c : Char} (h : continuesName c = false) :
    startsName c = false := by
  cases starts : startsName c with
  | false => rfl
  | true => rw [continues_of_starts starts] at h; exact h

/-- A word is scanned up to where it ends. -/
theorem scan_word {letters cs : List Char} (nonempty : letters ≠ []) (ends : EndsWord cs) :
    scan letters cs = .word letters.reverse :: scan [] cs := by
  have open_word : scan.ended letters = [.word letters.reverse] := by
    simp [scan.ended, nonempty]
  have no_word : scan.ended [] = [] := rfl
  cases cs with
  | nil => simp only [scan, open_word, no_word]
  | cons c cs =>
    have ends : continuesName c = false := ends c rfl
    simp only [scan, open_word, no_word, List.isEmpty_iff, nonempty, ends, List.isEmpty_nil,
      starts_eq_false_of_ends ends, if_true, if_false, Bool.false_eq_true]
    split <;> rfl

/-- Letters of a name are scanned into the open word. -/
theorem scan_letters {letters cs rest : List Char} (nonempty : letters ≠ [])
    (h : cs.all continuesName = true) :
    scan letters (cs ++ rest) = scan (cs.reverse ++ letters) rest := by
  induction cs generalizing letters with
  | nil => rfl
  | cons c cs ih =>
    simp only [List.all_cons, Bool.and_eq_true] at h
    simp only [List.cons_append, scan, List.isEmpty_iff, nonempty, h.1, if_true, if_false]
    rw [ih (List.cons_ne_nil c letters) h.2]
    simp

/-- A name is scanned as its lexeme, if the word ends behind it. -/
theorem scan_name (n : Name) {cs : List Char} (ends : EndsWord cs) :
    scan [] (n.text.toList ++ cs) = n.lexeme :: scan [] cs := by
  simp only [Name.text, String.toList_ofList, List.cons_append, scan, List.isEmpty_nil, if_true,
    n.first_starts]
  rw [scan_letters (List.cons_ne_nil _ _) n.rest_continues, scan_word (by simp) ends]
  simp [Name.lexeme]

/-- A mark is scanned as itself. -/
theorem scan_mark {c : Char} (proper : (mark c).IsProper) (cs : List Char) :
    scan [] (c :: cs) = .mark c :: scan [] cs := by
  simp only [scan, List.isEmpty_nil, if_true, proper.1, proper.2, if_false, Bool.false_eq_true]
  rfl

/-- Where what follows ends a word, it is scanned apart from what stands before it. -/
theorem scan_append {ds : List Char} (ends : EndsWord ds) (letters cs : List Char) :
    scan letters (cs ++ ds) = scan letters cs ++ scan [] ds := by
  induction cs generalizing letters with
  | nil =>
    rw [List.nil_append]
    cases letters with
    | nil => rfl
    | cons a letters => exact scan_word (List.cons_ne_nil a letters) ends
  | cons c cs ih =>
    rw [List.cons_append, scan, scan]
    by_cases inside : (if letters.isEmpty then startsName c else continuesName c) = true
    · rw [if_pos inside, if_pos inside]
      exact ih (c :: letters)
    · rw [if_neg inside, if_neg inside, ih []]
      by_cases blank : Text.isBlank c = true
      · rw [if_pos blank, if_pos blank, List.append_assoc]
      · rw [if_neg blank, if_neg blank, List.append_assoc, List.cons_append]

/-- The punctuation of expressions. -/
def punctuation : List Char := ['+', ',', '(', ')', '[', ']']

/-- Punctuation is a proper lexeme. -/
theorem proper_of_punctuation {c : Char} (h : c ∈ punctuation) : (mark c).IsProper := by
  simp only [punctuation, List.mem_cons, List.not_mem_nil, or_false] at h
  rcases h with rfl | rfl | rfl | rfl | rfl | rfl <;> exact ⟨rfl, rfl⟩

/-- Punctuation ends words. -/
theorem endsWord_of_punctuation {c : Char} (h : c ∈ punctuation) (cs : List Char) :
    EndsWord (c :: cs) := by
  simp only [punctuation, List.mem_cons, List.not_mem_nil, or_false] at h
  intro d hd
  obtain rfl : c = d := by simpa using hd
  rcases h with rfl | rfl | rfl | rfl | rfl | rfl <;> rfl

end Lexeme

/-- Texts joined by a separator are the first text, and then each other one behind a separator. -/
theorem intercalate_toList (separator first : String) (rest : List String) :
    (separator.intercalate (first :: rest)).toList =
      first.toList ++ rest.flatMap (fun s => separator.toList ++ s.toList) := by
  induction rest generalizing first with
  | nil => simp
  | cons next rest ih =>
    rw [String.intercalate_cons_cons, String.toList_append, String.toList_append, ih]
    simp

open Lexeme

mutual

/-- The lexemes of a written expression are its own. -/
theorem Expr.scan_text (e : Expr) {cs : List Char} (ends : EndsWord cs) :
    scan [] (e.text.toList ++ cs) = e.lexemes ++ scan [] cs :=
  match e with
  | .sum first rest => by
    have ends_first : EndsWord (rest.flatMap (fun t => '+' :: t.text.toList) ++ cs) := by
      cases rest with
      | nil => exact ends
      | cons t ts => exact endsWord_of_punctuation (by decide) _
    have spelled : (Expr.sum first rest).text.toList ++ cs =
        first.text.toList ++ (rest.flatMap (fun t => '+' :: t.text.toList) ++ cs) := by
      rw [Expr.text, intercalate_toList, List.flatMap_map]
      simp
    rw [spelled, Term.scan_text first ends_first, Term.scan_more_text rest ends]
    simp [Expr.lexemes]

/-- A written term is scanned as its lexemes, if no word goes on behind it. -/
theorem Term.scan_text (t : Term) {cs : List Char} (ends : EndsWord cs) :
    scan [] (t.text.toList ++ cs) = t.lexemes ++ scan [] cs :=
  match t with
  | .name n => by
    simp only [Term.text, Term.lexemes]
    exact scan_name n ends
  | .call n args => by
    have opens := endsWord_of_punctuation (c := '(') (by decide)
      ((",".intercalate (args.map Expr.text)).toList ++ ')' :: cs)
    have spelled : (Term.call n args).text.toList ++ cs =
        n.text.toList ++ '(' :: ((",".intercalate (args.map Expr.text)).toList ++ ')' :: cs) := by
      simp [Term.text]
    rw [spelled, scan_name n opens, scan_mark (proper_of_punctuation (by decide)),
      Expr.scan_items_text args (by decide)]
    simp [Term.lexemes]
  | .list items => by
    have spelled : (Term.list items).text.toList ++ cs =
        '[' :: ((",".intercalate (items.map Expr.text)).toList ++ ']' :: cs) := by
      simp [Term.text]
    rw [spelled, scan_mark (proper_of_punctuation (by decide)),
      Expr.scan_items_text items (by decide)]
    simp [Term.lexemes]
  | .pick base index => by
    have opens := endsWord_of_punctuation (c := '[') (by decide) (index.text.toList ++ ']' :: cs)
    have closes := endsWord_of_punctuation (c := ']') (by decide) cs
    have spelled : (Term.pick base index).text.toList ++ cs =
        base.text.toList ++ '[' :: (index.text.toList ++ ']' :: cs) := by
      simp [Term.text]
    rw [spelled, Term.scan_text base opens, scan_mark (proper_of_punctuation (by decide)),
      Expr.scan_text index closes, scan_mark (proper_of_punctuation (by decide))]
    simp [Term.lexemes]

/-- So are the terms behind the first one of a sum. -/
theorem Term.scan_more_text (ts : List Term) {cs : List Char} (ends : EndsWord cs) :
    scan [] (ts.flatMap (fun t => '+' :: t.text.toList) ++ cs) =
      Term.moreLexemes ts ++ scan [] cs :=
  match ts with
  | [] => rfl
  | t :: ts => by
    have ends_term : EndsWord (ts.flatMap (fun t => '+' :: t.text.toList) ++ cs) := by
      cases ts with
      | nil => exact ends
      | cons u us => exact endsWord_of_punctuation (by decide) _
    rw [List.flatMap_cons, List.append_assoc, List.cons_append,
      scan_mark (proper_of_punctuation (by decide)), Term.scan_text t ends_term,
      Term.scan_more_text ts ends]
    simp [Term.moreLexemes]

/-- So are the items in a bracket, with its closing character. -/
theorem Expr.scan_items_text (es : List Expr) {closer : Char} {cs : List Char}
    (h : closer ∈ punctuation) :
    scan [] ((",".intercalate (es.map Expr.text)).toList ++ closer :: cs) =
      Expr.itemLexemes es ++ .mark closer :: scan [] cs :=
  match es with
  | [] => by
    simp only [List.map_nil, String.intercalate_nil, Expr.itemLexemes]
    exact scan_mark (proper_of_punctuation h) cs
  | [e] => by
    simp only [List.map_cons, List.map_nil, String.intercalate_singleton, Expr.itemLexemes]
    rw [Expr.scan_text e (endsWord_of_punctuation h cs), scan_mark (proper_of_punctuation h)]
  | e :: e' :: es => by
    have ends := endsWord_of_punctuation (c := ',') (by decide)
      ((",".intercalate ((e' :: es).map Expr.text)).toList ++ closer :: cs)
    have spelled : (",".intercalate ((e :: e' :: es).map Expr.text)).toList ++ closer :: cs =
        e.text.toList ++
          ',' :: ((",".intercalate ((e' :: es).map Expr.text)).toList ++ closer :: cs) := by
      simp only [List.map_cons, String.intercalate_cons_cons]
      simp
    rw [spelled, Expr.scan_text e ends, scan_mark (proper_of_punctuation (by decide)),
      Expr.scan_items_text (e' :: es) h]
    simp [Expr.itemLexemes]

end

/-- Scanning undoes writing. -/
theorem Lexeme.ofSource_text (e : Expr) : ofSource e.text = e.lexemes := by
  have ends : EndsWord [] := by simp [EndsWord]
  have scanned := e.scan_text ends
  simpa [ofSource, scan, scan.ended] using scanned

end Lipogram
