import Lipogram.Proofs.Draft
import Lipogram.Proofs.Steps

/-!
# Values of drafts

A draft is evaluated part by part: from the outermost bracket inwards and from left to right, each
part at its level, up to the first problem. What comes out is a state of the machine.
-/

set_option autoImplicit false

namespace Lipogram

/-- What a bracket makes, if its name is known. -/
def Opener.maker : Opener → Except Problem Reader.Maker
  | list => .ok .list
  | call n => n.builtin.map .call

/-- The value of the sum to the left of a term. -/
def Expr.leftAt (level : Nat) : Option Expr → Except Problem (Option Value)
  | none => .ok none
  | some e => (e.valueAt level).map some

namespace Draft

/-- An open bracket with the values of its parts. The expression inside it begins one level
further down. -/
def Frame.state (level : Nat) : Frame → Except Problem Reader.Frame
  | items opener done left =>
    (Expr.leftAt level left).bind (fun l =>
      opener.maker.bind (fun maker =>
        (Expr.valuesAt (level + 1) done.reverse).bind (fun vs =>
          (enter (level + 1)).map (fun _ => .items maker vs.reverse l))))
  | index base left =>
    (Expr.leftAt level left).bind (fun l =>
      (base.valueAt level).bind (fun v => (enter (level + 1)).map (fun _ => .index v l)))

/-- The open brackets with the values of their parts, evaluated from the outermost one inwards. -/
def frameStates : List Frame → Except Problem (List Reader.Frame)
  | [] => .ok []
  | frame :: frames =>
    (frameStates frames).bind (fun gs => (frame.state frames.length).map (· :: gs))

/-- What was read last, with its value. -/
def Focus.state (level : Nat) : Focus → Except Problem Reader.Focus
  | operand => .ok .operand
  | opened opener => opener.maker.map .opened
  | name n => n.builtin.map .name
  | term t => (t.valueAt level).map .term

/-- The state of the machine that has the values of all parts of a draft. -/
def state (d : Draft) : Except Problem Reader.State :=
  (frameStates d.frames).bind (fun frames =>
    (Expr.leftAt d.frames.length d.left).bind (fun left =>
      (d.focus.state d.frames.length).map (fun focus => ⟨0, frames, left, focus⟩)))

end Draft

/-- The machine that has the values of all parts of a draft. -/
def Draft.status (d : Draft) : Reader.Status :=
  .ofOutcome d.state

/-! ## Values of parts put together -/

/-- The last term is added behind all others. -/
theorem Term.addAllAt_append (level : Nat) (ts : List Term) (t : Term) (sum : Value) :
    addAllAt level (ts ++ [t]) sum =
      (addAllAt level ts sum).bind (fun s => (t.valueAt level).bind s.add) := by
  induction ts generalizing sum with
  | nil => simp [addAllAt]
  | cons u ts ih =>
    have of_rest : addAllAt level (ts ++ [t]) =
        fun s => (addAllAt level ts s).bind (fun s' => (t.valueAt level).bind s'.add) := funext ih
    simp only [List.cons_append, addAllAt, of_rest, bind_bind]

/-- A sum with one more term has the value of the sum to its left, plus that of the term. -/
theorem Expr.plus_valueAt (level : Nat) (left : Option Expr) (t : Term) :
    (plus left t).valueAt level =
      (leftAt level left).bind (fun l => (t.valueAt level).bind (Reader.total l)) := by
  cases left with
  | none => rfl
  | some e =>
    cases e with
    | sum first rest =>
      have of_rest : Term.addAllAt level (rest ++ [t]) = fun s =>
          (Term.addAllAt level rest s).bind (fun s' => (t.valueAt level).bind s'.add) :=
        funext (Term.addAllAt_append level rest t)
      simp only [plus, valueAt, leftAt, of_rest, map_eq_bind, bind_bind, ok_bind]
      rfl

/-- The last expression is evaluated behind all others. -/
theorem Expr.valuesAt_append (level : Nat) (es : List Expr) (e : Expr) :
    valuesAt level (es ++ [e]) =
      (valuesAt level es).bind (fun vs =>
        (enter level).bind (fun _ => (e.valueAt level).map (fun v => vs ++ [v]))) := by
  induction es with
  | nil => simp [valuesAt, map_eq_bind]
  | cons first es ih => simp [valuesAt, map_eq_bind, bind_bind, ih]

/-- The value of a bracket with items. -/
theorem Opener.valueAt_term (opener : Opener) (level : Nat) (items : List Expr) :
    (opener.term items).valueAt level =
      opener.maker.bind (fun maker => (Expr.valuesAt (level + 1) items).bind maker.make) := by
  cases opener with
  | list =>
    simp only [term, maker, Term.valueAt, map_eq_bind, ok_bind]
    rfl
  | call n =>
    simp only [term, maker, Term.valueAt, map_eq_bind, bind_bind, ok_bind]
    rfl

/-- A bracket is closed by the same character when its name is known. -/
theorem Opener.maker_closer {opener : Opener} {maker : Reader.Maker}
    (h : opener.maker = .ok maker) : maker.closer = opener.closer := by
  cases opener with
  | list =>
    obtain rfl := Except.ok.inj h
    rfl
  | call n =>
    obtain ⟨f, -, rfl⟩ := map_eq_ok.mp h
    rfl

/-- Evaluation keeps the number of open brackets. -/
theorem Draft.frameStates_length {frames : List Draft.Frame} {gs : List Reader.Frame}
    (h : frameStates frames = .ok gs) : gs.length = frames.length := by
  induction frames generalizing gs with
  | nil =>
    obtain rfl := Except.ok.inj h
    rfl
  | cons frame frames ih =>
    obtain ⟨hs, of_frames, mapped⟩ := bind_eq_ok.mp h
    obtain ⟨g, -, rfl⟩ := map_eq_ok.mp mapped
    rw [List.length_cons, List.length_cons, ih of_frames]

end Lipogram
