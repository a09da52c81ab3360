import Lipogram.Encoding
import Lipogram.Evaluation
import Lipogram.Text.Quoted

/-!
# Verification of encodings

An expression is evaluated and compared with the text it was made for.
-/

set_option autoImplicit false

namespace Lipogram

/-- Why an expression does not stand for a text. -/
inductive Mismatch where
  | noText (problem : Problem)
  | otherText (expected given : String)

/-- What went wrong, without the cause. -/
def Mismatch.summary : Mismatch → String
  | noText _ => "Encoded expression failed to evaluate"
  | otherText expected given =>
    "Verification failed: expected " ++ Text.quoted expected ++ ", expression gives " ++
      Text.quoted given

/-- What lies behind the mismatch. -/
def Mismatch.cause? : Mismatch → Option String
  | noText problem => some problem.message
  | otherText _ _ => none

/-- The wording of a mismatch with its cause on one line. -/
def Mismatch.message (m : Mismatch) : String :=
  match m.cause? with
  | some cause => m.summary ++ ": " ++ cause
  | none => m.summary

/-- Whether an expression evaluates to what an encoding of `text` stands for. -/
def verify (source : String) (mode : Mode) (text : String) : Except Mismatch Unit :=
  match evaluateText source with
  | .error problem => .error (.noText problem)
  | .ok given =>
    let expected := mode.output text
    if given = expected then .ok () else .error (.otherText expected given)

end Lipogram
