import Lipogram.Proofs.Agreement

/-!
# Readings of sources

A source that has a value is the layout of one tree and of no other. The tree names only built-ins,
none of its expressions lies too deep, and its value is the value of the source.
-/

set_option autoImplicit false

namespace Lipogram

/-- Names that are spelled alike are the same. -/
theorem Name.text_injective {n m : Name} (h : n.text = m.text) : n = m := by
  obtain ⟨first, rest, _, _⟩ := n
  obtain ⟨first', rest', _, _⟩ := m
  have letters : first :: rest = first' :: rest' := String.ofList_injective h
  obtain ⟨rfl, rfl⟩ := List.cons.inj letters
  rfl

/-- Names with the same lexeme are the same. -/
theorem Name.lexeme_injective {n m : Name} (h : n.lexeme = m.lexeme) : n = m := by
  apply Name.text_injective
  unfold Name.text
  rw [Lexeme.word.inj h]

/-- A name that stands for a built-in is the name of the built-in. -/
theorem Name.eq_of_builtin {n : Name} {f : Builtin} (h : n.builtin = .ok f) : f.toName = n := by
  apply Name.text_injective
  unfold Name.builtin at h
  split at h
  · next g found =>
    obtain rfl := Except.ok.inj h
    rw [text_toName, Builtin.ofName_eq_some found]
  · simp at h

/-- Every name among some lexemes is the name of a built-in. -/
def OnlyBuiltins (ls : List Lexeme) : Prop :=
  ∀ n : Name, n.lexeme ∈ ls → ∃ f : Builtin, f.toName = n

/-- Without lexemes there is no name that is not known. -/
theorem onlyBuiltins_nil : OnlyBuiltins [] :=
  fun _ mem => absurd mem List.not_mem_nil

/-- Lexemes behind each other hold no other names than both do. -/
theorem OnlyBuiltins.append {ls ms : List Lexeme} (left : OnlyBuiltins ls)
    (right : OnlyBuiltins ms) : OnlyBuiltins (ls ++ ms) := by
  intro n mem
  rcases List.mem_append.mp mem with mem | mem
  · exact left n mem
  · exact right n mem

/-- A mark is no name. -/
theorem OnlyBuiltins.mark {ls : List Lexeme} (h : OnlyBuiltins ls) (c : Char) :
    OnlyBuiltins (.mark c :: ls) := by
  intro n mem
  rcases List.mem_cons.mp mem with eq | mem
  · exact Lexeme.noConfusion eq
  · exact h n mem

/-- A name that is known may stand in front. -/
theorem OnlyBuiltins.name {ls : List Lexeme} (h : OnlyBuiltins ls) {n : Name} {f : Builtin}
    (found : n.builtin = .ok f) : OnlyBuiltins (n.lexeme :: ls) := by
  intro m mem
  rcases List.mem_cons.mp mem with eq | mem
  · exact ⟨f, (Name.eq_of_builtin found).trans (Name.lexeme_injective eq).symm⟩
  · exact h m mem

mutual

/-- An expression that has a value names only built-ins. -/
theorem Expr.onlyBuiltins_of_value (e : Expr) {v : Value} (h : e.value = .ok v) :
    OnlyBuiltins e.lexemes :=
  match e with
  | .sum first rest => by
    obtain ⟨w, of_first, of_rest⟩ := bind_eq_ok.mp h
    have left := Term.onlyBuiltins_of_value first of_first
    exact left.append (Term.onlyBuiltins_of_addAll rest of_rest)

/-- A term that has a value holds only known names. -/
theorem Term.onlyBuiltins_of_value (t : Term) {v : Value} (h : t.value = .ok v) :
    OnlyBuiltins t.lexemes :=
  match t with
  | .name n => by
    obtain ⟨f, found, -⟩ := map_eq_ok.mp h
    exact onlyBuiltins_nil.name found
  | .call n args => by
    obtain ⟨f, found, called⟩ := bind_eq_ok.mp h
    obtain ⟨vs, of_args, -⟩ := bind_eq_ok.mp called
    have inside := Expr.onlyBuiltins_of_values args of_args
    exact ((inside.append (onlyBuiltins_nil.mark ')')).mark '(').name found
  | .list items => by
    obtain ⟨vs, of_items, -⟩ := map_eq_ok.mp h
    have inside := Expr.onlyBuiltins_of_values items of_items
    exact (inside.append (onlyBuiltins_nil.mark ']')).mark '['
  | .pick base index => by
    obtain ⟨w, of_base, picked⟩ := bind_eq_ok.mp h
    obtain ⟨i, of_index, -⟩ := bind_eq_ok.mp picked
    have left := Term.onlyBuiltins_of_value base of_base
    have inside := Expr.onlyBuiltins_of_value index of_index
    exact left.append ((inside.append (onlyBuiltins_nil.mark ']')).mark '[')

/-- So do terms that can be added. -/
theorem Term.onlyBuiltins_of_addAll (ts : List Term) {sum v : Value}
    (h : Term.addAll ts sum = .ok v) : OnlyBuiltins (Term.moreLexemes ts) :=
  match ts with
  | [] => onlyBuiltins_nil
  | t :: ts => by
    obtain ⟨w, of_term, added⟩ := bind_eq_ok.mp h
    obtain ⟨next, -, of_rest⟩ := bind_eq_ok.mp added
    have left := Term.onlyBuiltins_of_value t of_term
    exact (left.append (Term.onlyBuiltins_of_addAll ts of_rest)).mark '+'

/-- So do expressions that have values. -/
theorem Expr.onlyBuiltins_of_values (es : List Expr) {vs : List Value}
    (h : Expr.values es = .ok vs) : OnlyBuiltins (Expr.itemLexemes es) :=
  match es with
  | [] => onlyBuiltins_nil
  | [e] => by
    obtain ⟨v, of_item, -⟩ := bind_eq_ok.mp h
    exact Expr.onlyBuiltins_of_value e of_item
  | e :: e' :: es => by
    obtain ⟨v, of_first, mapped⟩ := bind_eq_ok.mp h
    obtain ⟨ws, of_rest, -⟩ := map_eq_ok.mp mapped
    have left := Expr.onlyBuiltins_of_value e of_first
    exact left.append ((Expr.onlyBuiltins_of_values (e' :: es) of_rest).mark ',')

end

/-- A source that has a value has the lexemes of a tree with that value. -/
theorem exists_reading {source : String} {v : Value} (h : evaluate source = .ok v) :
    ∃ e : Expr, e.lexemes = Lexeme.ofSource source ∧ e.depth ≤ Reader.deepestLevel ∧
      e.value = .ok v := by
  have outcome : Reader.outcome (Lexeme.ofSource source) = .ok v := by
    rw [← placeless_eq_ok, ← evaluate_lexemes, placeless_eq_ok]
    exact h
  obtain ⟨e, read⟩ :=
    Reader.exists_lexemes_of_outcome (fun l mem => Lexeme.proper_of_mem_source mem) outcome
  have valueAt : e.valueAt 0 = .ok v := by
    rw [← placeless_eq_ok, ← placeless_evaluate read, placeless_eq_ok]
    exact h
  have shallow : 0 + e.depth ≤ Reader.deepestLevel := e.depth_of_valueAt valueAt (by decide)
  refine ⟨e, read, by omega, ?_⟩
  rw [← e.valueAt_of_depth shallow]
  exact valueAt

/-- A source that has a value can be read in exactly one way: its lexemes are those of a tree that
names only built-ins and is not too deep, and of no other tree; and its value is the value of the
tree. -/
theorem evaluate_ok_reading {source : String} {v : Value} (h : evaluate source = .ok v) :
    ∃ e : Expr, e.lexemes = Lexeme.ofSource source ∧ e.depth ≤ 256 ∧ OnlyBuiltins e.lexemes ∧
      e.value = .ok v ∧ ∀ other : Expr, other.lexemes = Lexeme.ofSource source → other = e := by
  obtain ⟨e, read, shallow, value⟩ := exists_reading h
  refine ⟨e, read, shallow, e.onlyBuiltins_of_value value, value, fun other same => ?_⟩
  exact Expr.lexemes_injective (same.trans read.symm)

/-- Blanks inside a subscript, and a list that is picked from. -/
theorem evaluate_ok_reading_layout :
    evaluate " [ len, [ ] ] [bool ( )]" = .ok (.builtin .len) ∧
      ∃ e : Expr, e.lexemes = Lexeme.ofSource " [ len, [ ] ] [bool ( )]" ∧
        e.value = .ok (.builtin .len) := by
  have value : evaluate " [ len, [ ] ] [bool ( )]" = .ok (.builtin .len) := by rfl
  obtain ⟨e, read, -, -, of_tree, -⟩ := evaluate_ok_reading value
  exact ⟨value, e, read, of_tree⟩

end Lipogram
