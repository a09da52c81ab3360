import Lipogram.Expr
import Lipogram.Text.Blank
import Lipogram.Value.Operations

/-!
# Evaluation of sources

A source is read once, character by character, by a machine that evaluates as it reads: its state
holds the brackets that are open, the sum to the left of the current operand, and what the next
character may continue. Because evaluation follows reading, the first problem from left to right
decides the outcome, and nothing behind it is looked at.

Reading is a fold over the characters (`read_append`), so what has been read of a source does not
depend on what follows it.
-/

set_option autoImplicit false

namespace Lipogram.Reader

/-- The deepest level at which an expression may stand; a source stands at level 0, and each item,
argument or index one level below the expression around it. -/
def deepestLevel : Nat := 256

/-- What a bracket full of items makes when it closes. -/
inductive Maker where
  | list
  | call (f : Builtin)

/-- The character that closes the bracket. -/
def Maker.closer : Maker → Char
  | .list => ']'
  | .call _ => ')'

/-- The value made of the items. -/
def Maker.make : Maker → List Value → Except Problem Value
  | .list, items => .ok (.list items)
  | .call f, args => f.call args

/-- An open bracket: the items before the current one, the last of them first, or the base of a
subscript; and the sum to the left of the term that the bracket belongs to. -/
inductive Frame where
  | items (maker : Maker) (done : List Value) (left : Option Value)
  | index (base : Value) (left : Option Value)

/-- What has just been read: nothing of the operand that must come, the opening bracket of a list
or call, the letters of a name (the last of them first), a whole name, or a whole term. -/
inductive Focus where
  | operand
  | opened (maker : Maker)
  | word (letters : List Char)
  | name (f : Builtin)
  | term (v : Value)

/-- The state of the machine inside a source. The offset counts bytes. -/
structure State where
  offset : Nat
  frames : List Frame
  left : Option Value
  focus : Focus

/-- A machine still reads, or has met the end of its expression before the character at an offset,
or has met a problem at an offset. -/
inductive Status where
  | reading (s : State)
  | ended (v : Value) (offset : Nat)
  | failed (offset : Nat) (problem : Problem)

/-- The machine before an expression at level `base` that begins at an offset. -/
def Status.start (base offset : Nat) : Status :=
  if deepestLevel < base then .failed offset (.malformed offset .nestedTooDeeply)
  else .reading ⟨offset, [], none, .operand⟩

/-- The value of a sum whose last operand has been read. -/
def total (left : Option Value) (v : Value) : Except Problem Value :=
  match left with
  | none => .ok v
  | some sum => sum.add v

namespace State

/-- The state behind the character `c`. -/
def past (s : State) (c : Char) (focus : Focus) : State :=
  { s with offset := s.offset + c.utf8Size, focus := focus }

/-- Whether an expression inside one more bracket would stand too deep, if the source itself stands
at level `base`. -/
def isDeepest (base : Nat) (s : State) : Bool :=
  deepestLevel ≤ base + s.frames.length

/-- A bracket full of items closes; `s` stands behind its closing character. -/
def close (s : State) (maker : Maker) (items : List Value) : Status :=
  match maker.make items with
  | .ok v => .reading { s with focus := .term v }
  | .error problem => .failed s.offset problem

/-- A subscript opens; `s` stands behind its opening character. -/
def openIndex (base : Nat) (s : State) (v : Value) : Status :=
  if s.isDeepest base then .failed s.offset (.malformed s.offset .nestedTooDeeply)
  else .reading { s with frames := .index v s.left :: s.frames, left := none, focus := .operand }

/-- A subscript closes; `s` stands behind its closing character. -/
def closeIndex (s : State) (v index : Value) : Status :=
  match v.pick index with
  | .ok picked => .reading { s with focus := .term picked }
  | .error problem => .failed s.offset problem

/-- The next character where an operand must begin. -/
def readOperand (s : State) (c : Char) : Status :=
  if Text.isBlank c then .reading (s.past c .operand)
  else if c = '[' then .reading (s.past c (.opened .list))
  else if startsName c then .reading (s.past c (.word [c]))
  else .failed s.offset (.malformed s.offset (.unexpected c))

/-- The next character behind the opening bracket of a list or call: the closing bracket, or the
first item. -/
def readOpened (base : Nat) (s : State) (maker : Maker) (c : Char) : Status :=
  if Text.isBlank c then .reading (s.past c (.opened maker))
  else if c = maker.closer then (s.past c .operand).close maker []
  else if s.isDeepest base then .failed s.offset (.malformed s.offset .nestedTooDeeply)
  else readOperand { s with frames := .items maker [] s.left :: s.frames, left := none } c

/-- The next character behind an expression with the value `v`: the character that goes on after
it in the bracket around it. -/
def readAfterSum (s : State) (v : Value) (c : Char) : Status :=
  match s.frames with
  | [] => .ended v s.offset
  | .items maker done left :: frames =>
    if c = ',' then
      .reading { s.past c .operand with
        frames := .items maker (v :: done) left :: frames, left := none }
    else if c = maker.closer then
      { s.past c .operand with frames := frames, left := left }.close maker (v :: done).reverse
    else
      let offset := s.offset + c.utf8Size
      .failed offset (.malformed offset (.expected maker.closer true c))
  | .index base left :: frames =>
    if c = ']' then { s.past c .operand with frames := frames, left := left }.closeIndex base v
    else
      let offset := s.offset + c.utf8Size
      .failed offset (.malformed offset (.expected ']' false c))

/-- The next character behind the term `v`: a subscript or a plus sign goes on with the sum, any
other character ends it. -/
def readAfterTerm (base : Nat) (s : State) (v : Value) (c : Char) : Status :=
  if Text.isBlank c then .reading (s.past c (.term v))
  else if c = '[' then (s.past c .operand).openIndex base v
  else
    match total s.left v with
    | .error problem => .failed s.offset problem
    | .ok sum =>
      if c = '+' then .reading { s.past c .operand with left := some sum }
      else s.readAfterSum sum c

/-- The next character behind a name: an opening parenthesis makes it a call. -/
def readAfterName (base : Nat) (s : State) (f : Builtin) (c : Char) : Status :=
  if Text.isBlank c then .reading (s.past c (.name f))
  else if c = '(' then .reading (s.past c (.opened (.call f)))
  else s.readAfterTerm base (.builtin f) c

/-- The built-in that letters name, the last letter standing first. -/
def named (letters : List Char) : Except Problem Builtin :=
  let word := String.ofList letters.reverse
  match Builtin.ofName? word with
  | some f => .ok f
  | none => .error (.unknownName word)

/-- The next character behind a letter of a name. -/
def readInWord (base : Nat) (s : State) (letters : List Char) (c : Char) : Status :=
  if continuesName c then .reading (s.past c (.word (c :: letters)))
  else
    match named letters with
    | .ok f => s.readAfterName base f c
    | .error problem => .failed s.offset problem

/-- One step of the machine. -/
def read (base : Nat) (s : State) (c : Char) : Status :=
  match s.focus with
  | .operand => s.readOperand c
  | .opened maker => s.readOpened base maker c
  | .word letters => s.readInWord base letters c
  | .name f => s.readAfterName base f c
  | .term v => s.readAfterTerm base v c

/-- The end of the source behind the term `v`. -/
def finishTerm (s : State) (v : Value) : Except Problem Value :=
  match total s.left v with
  | .error problem => .error problem
  | .ok sum =>
    match s.frames with
    | [] => .ok sum
    | .items maker _ _ :: _ => .error (.malformed s.offset (.unclosed maker.closer))
    | .index _ _ :: _ => .error (.malformed s.offset (.unclosed ']'))

/-- The end of the source. -/
def finish (base : Nat) (s : State) : Except Problem Value :=
  match s.focus with
  | .operand => .error (.malformed s.offset .unexpectedEnd)
  | .opened _ =>
    .error (.malformed s.offset (if s.isDeepest base then .nestedTooDeeply else .unexpectedEnd))
  | .word letters =>
    match named letters with
    | .ok f => s.finishTerm (.builtin f)
    | .error problem => .error problem
  | .name f => s.finishTerm (.builtin f)
  | .term v => s.finishTerm v

end State

namespace Status

/-- One step, if the machine still reads. -/
def read (base : Nat) (status : Status) (c : Char) : Status :=
  match status with
  | reading s => s.read base c
  | stopped => stopped

/-- The outcome when the source ends. A source must be one expression and nothing else. -/
def finish (base : Nat) : Status → Except Problem Value
  | reading s => s.finish base
  | ended _ offset => .error (.malformed offset .trailing)
  | failed _ problem => .error problem

end Status

/-- The machine after some characters. -/
def read (base : Nat) (status : Status) (cs : List Char) : Status :=
  cs.foldl (Status.read base) status

/-- Reading two stretches of characters is reading the first and then the second. -/
theorem read_append (base : Nat) (status : Status) (cs ds : List Char) :
    read base status (cs ++ ds) = read base (read base status cs) ds :=
  List.foldl_append

end Lipogram.Reader

namespace Lipogram

/-- The value of a source. -/
def evaluate (source : String) : Except Problem Value :=
  (Reader.read 0 (.start 0 0) source.toList).finish 0

/-- The text that a source evaluates to. -/
def evaluateText (source : String) : Except Problem String :=
  match evaluate source with
  | .error problem => .error problem
  | .ok (.str s) => .ok s
  | .ok other => .error (.clash (.notText other.kind))

end Lipogram
