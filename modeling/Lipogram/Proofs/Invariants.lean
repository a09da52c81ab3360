import Lipogram.Expr.Meaning
import Lipogram.Lexeme
import Lipogram.Proofs.Outcomes

/-!
# Properties that evaluation keeps

A property of values, and one of problems, that the operations on values keep is a property of the
outcome of every expression. The operations may be those of some of the built-ins only, as long as
the expression names no others.
-/

set_option autoImplicit false

namespace Lipogram

/-- An outcome is a value with one property, or a problem with another. -/
def Holds {α : Type} (P : α → Prop) (E : Problem → Prop) : Except Problem α → Prop
  | .ok a => P a
  | .error problem => E problem

section

variable {α β : Type} {P : α → Prop} {Q : β → Prop} {E : Problem → Prop} {x : Except Problem α}

/-- A value that an outcome has keeps the property of values. -/
theorem Holds.of_eq_ok {a : α} (holds : Holds P E x) (h : x = .ok a) : P a := by
  rw [h] at holds
  exact holds

/-- A problem that an outcome has keeps the property of problems. -/
theorem Holds.of_eq_error {problem : Problem} (holds : Holds P E x) (h : x = .error problem) :
    E problem := by
  rw [h] at holds
  exact holds

/-- A chain has the properties that its links lead to. -/
theorem Holds.bind {f : α → Except Problem β} (holds : Holds P E x)
    (next : ∀ a, P a → Holds Q E (f a)) : Holds Q E (x.bind f) := by
  cases x with
  | ok a => exact next a holds
  | error problem => exact holds

/-- Mapping leaves problems alone. -/
theorem Holds.map {f : α → β} (holds : Holds P E x) (next : ∀ a, P a → Q (f a)) :
    Holds Q E (x.map f) := by
  rw [map_eq_bind]
  exact holds.bind next

end

/-- A property `P` of values and a property `E` of problems that are kept by the operations on
values, if no other built-ins are known than those with the property `Known`. -/
structure Kept (Known : Builtin → Prop) (P : Value → Prop) (E : Problem → Prop) : Prop where
  unknownName : ∀ word, E (.unknownName word)
  builtin : ∀ f, Known f → P (.builtin f)
  list : ∀ items, (∀ v ∈ items, P v) → P (.list items)
  call : ∀ f args, Known f → (∀ v ∈ args, P v) → Holds P E (f.call args)
  add : ∀ a b, P a → P b → Holds P E (a.add b)
  pick : ∀ base index, P base → P index → Holds P E (base.pick index)

/-- Among some lexemes, a name that stands for a built-in stands for a known one. -/
def OnlyKnown (Known : Builtin → Prop) (ls : List Lexeme) : Prop :=
  ∀ n : Name, n.lexeme ∈ ls → ∀ f, n.builtin = .ok f → Known f

namespace OnlyKnown

variable {Known : Builtin → Prop} {l : Lexeme} {ls ms : List Lexeme}

/-- Behind the first lexeme only known names stand, if so it is with all. -/
theorem tail (known : OnlyKnown Known (l :: ls)) : OnlyKnown Known ls := by
  intro n mem
  exact known n (List.mem_cons_of_mem l mem)

/-- In the left part of lexemes with only known names there are only known names. -/
theorem left (known : OnlyKnown Known (ls ++ ms)) : OnlyKnown Known ls := by
  intro n mem
  exact known n (List.mem_append_left ms mem)

/-- So it is in the right part. -/
theorem right (known : OnlyKnown Known (ls ++ ms)) : OnlyKnown Known ms := by
  intro n mem
  exact known n (List.mem_append_right ls mem)

/-- The first of some items, and the others, name what all of them name. -/
theorem items {e : Expr} {es : List Expr} (known : OnlyKnown Known (Expr.itemLexemes (e :: es))) :
    OnlyKnown Known e.lexemes ∧ OnlyKnown Known (Expr.itemLexemes es) := by
  cases es with
  | nil => exact ⟨known, fun n mem => absurd mem List.not_mem_nil⟩
  | cons next es => exact ⟨known.left, known.right.tail⟩

end OnlyKnown

section

variable {Known : Builtin → Prop} {P : Value → Prop} {E : Problem → Prop}

/-- A name stands for a known built-in, or is a problem. -/
theorem Kept.name_holds (kept : Kept Known P E) {n : Name}
    (known : ∀ f, n.builtin = .ok f → Known f) : Holds Known E n.builtin := by
  cases found : n.builtin with
  | ok f => exact known f found
  | error problem =>
    unfold Name.builtin at found
    split at found
    · simp at found
    · obtain rfl := Except.error.inj found
      exact kept.unknownName n.text

mutual

/-- The outcome of an expression has the properties that the operations keep. -/
theorem Expr.value_holds (kept : Kept Known P E) (e : Expr) (known : OnlyKnown Known e.lexemes) :
    Holds P E e.value :=
  match e with
  | .sum first rest => by
    apply (Term.value_holds kept first known.left).bind
    intro v v_holds
    exact Term.addAll_holds kept rest v v_holds known.right

/-- The value of a term has the property that operations keep. -/
theorem Term.value_holds (kept : Kept Known P E) (t : Term) (known : OnlyKnown Known t.lexemes) :
    Holds P E t.value :=
  match t with
  | .name n => by
    have of_name := kept.name_holds (known n (List.mem_singleton_self _))
    exact of_name.map kept.builtin
  | .call n args => by
    have of_name := kept.name_holds (known n List.mem_cons_self)
    apply of_name.bind
    intro f known_f
    apply (Expr.values_hold kept args known.tail.tail.left).bind
    intro vs hold
    exact kept.call f vs known_f hold
  | .list items => by
    have of_items := Expr.values_hold kept items known.tail.left
    exact of_items.map kept.list
  | .pick base index => by
    apply (Term.value_holds kept base known.left).bind
    intro v v_holds
    apply (Expr.value_holds kept index known.right.tail.left).bind
    intro i i_holds
    exact kept.pick v i v_holds i_holds

/-- So has a sum with the values of more terms. -/
theorem Term.addAll_holds (kept : Kept Known P E) (ts : List Term) (sum : Value)
    (sum_holds : P sum) (known : OnlyKnown Known (Term.moreLexemes ts)) :
    Holds P E (Term.addAll ts sum) :=
  match ts with
  | [] => sum_holds
  | t :: ts => by
    apply (Term.value_holds kept t known.tail.left).bind
    intro v v_holds
    apply (kept.add sum v sum_holds v_holds).bind
    intro next next_holds
    exact Term.addAll_holds kept ts next next_holds known.tail.right

/-- So have the values of some expressions. -/
theorem Expr.values_hold (kept : Kept Known P E) (es : List Expr)
    (known : OnlyKnown Known (Expr.itemLexemes es)) :
    Holds (∀ v ∈ ·, P v) E (Expr.values es) :=
  match es with
  | [] => fun v mem => absurd mem List.not_mem_nil
  | e :: es => by
    obtain ⟨first_known, rest_known⟩ := known.items
    apply (Expr.value_holds kept e first_known).bind
    intro v v_holds
    apply (Expr.values_hold kept es rest_known).map
    intro vs hold
    exact List.forall_mem_cons.mpr ⟨v_holds, hold⟩

end

end

end Lipogram
