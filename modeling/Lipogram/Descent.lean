import Lipogram.Evaluation

/-!
# Evaluation by descent

Sources, evaluated by rules that call each other, one for each part of the grammar, and that move a
position through the source, which counts bytes. The machine of `Lipogram.Evaluation` reads each
character once and cannot but come to an end; rules could do worse than meet a problem. They might
call each other or turn in a loop forever, and they might take a part of the source or of a value
that is not there, which is a fault. So with rules it can be said that neither happens.

Calls and turns are made on fuel, and a rule that runs out of it has no outcome. A rule comes to an
end if it has the same outcome with all fuel from some amount on.
-/

set_option autoImplicit false

namespace Lipogram.Descent

/-- Why a rule stops: it has met a problem of the source, or it has taken what is not there. -/
inductive Stop where
  | problem (cause : Problem)
  | fault
  deriving DecidableEq

/-- A rule begins at a position and ends at another one, with a value or stopped, unless its fuel
runs out. -/
abbrev Rule (α : Type) := ExceptT Stop (StateT Nat Option) α

/-- The outcome of a rule that begins at a position, if it ends, and the position where it does. -/
def Rule.runAt {α : Type} (rule : Rule α) (position : Nat) : Option (Except Stop α × Nat) :=
  rule.run.run position

/-- A rule that has no fuel. -/
def exhausted {α : Type} : Rule α :=
  ExceptT.mk (fun _ => none)

/-- A loop turns for as long as its turns yield what the next one begins with. -/
def loop {σ : Type} (turn : σ → Rule (ForInStep σ)) : Nat → σ → Rule σ
  | 0, _ => exhausted
  | fuel + 1, s => do
    match ← turn s with
    | .yield s => loop turn fuel s
    | .done s => pure s

/-! ## Parts of values -/

/-- The outcome of an operation as that of a rule. -/
def ofOutcome {α : Type} (outcome : Except Problem α) : Except Stop α :=
  outcome.mapError .problem

/-- A part that must be there. -/
def present {α : Type} : Option α → Except Stop α
  | some a => .ok a
  | none => .error .fault

/-- The item at a place, and the other items with the last one moved to that place. -/
def swapRemove? {α : Type} (items : List α) (place : Nat) : Option (α × List α) := do
  let item ← items[place]?
  let last ← items.getLast?
  pure (item, (items.set place last).dropLast)

/-- Where an index points in a sequence that is long enough for it. -/
def place (index : Int) (length : Nat) : Except Stop Nat :=
  match position? index length with
  | some place => .ok place
  | none => .error (.problem (.outOfRange index length))

/-- The part of a text or list that a subscript picks. -/
def pick (base index : Value) : Except Stop Value := do
  let index ← ofOutcome index.toInt
  match base with
  | .str s => do
    let at_place ← place index s.toList.length
    let c ← present s.toList[at_place]?
    pure (.str c.toString)
  | .list items => do
    let at_place ← place index items.length
    let (item, _) ← present (swapRemove? items at_place)
    pure item
  | other => .error (.problem (.clash (.notSubscriptable other.kind)))

/-- The argument of a call with one argument. -/
def soleArgument (f : Builtin) : List Value → Except Stop Value
  | [v] => .ok v
  | args => .error (.problem (.arity f .exactlyOne args.length))

/-- The value of a call without arguments or with one argument. -/
def optionalArgument (f : Builtin) (args : List Value) (without : Value) (of : Value → Value) :
    Except Stop Value :=
  match args.length with
  | 0 => .ok without
  | 1 => do
    let v ← present args[0]?
    pure (of v)
  | given => .error (.problem (.arity f .atMostOne given))

/-- The value of a call. -/
def call (f : Builtin) (args : List Value) : Except Stop Value :=
  match f with
  | .len => do
    let v ← soleArgument f args
    ofOutcome v.length
  | .chr => do
    let v ← soleArgument f args
    ofOutcome v.character
  | .bool => optionalArgument f args (.bool false) (fun v => .bool v.isTruthy)
  | .str => optionalArgument f args (.str "") (fun v => .str v.text)
  | .hash | .repr | .type => .error (.problem (.clash (.notCallable f)))

/-! ## Parts of the source -/

/-- A position in a text at the edge of a character. -/
def IsBoundary (text : String) (position : Nat) : Prop :=
  (⟨position⟩ : String.Pos.Raw).IsValid text

instance (text : String) (position : Nat) : Decidable (IsBoundary text position) :=
  inferInstanceAs (Decidable ((⟨position⟩ : String.Pos.Raw).IsValid text))

/-- The part of a text between two positions, if both stand at the edge of a character, the second
one not in front of the first. -/
def slice? (text : String) (start stop : Nat) : Option String :=
  if IsBoundary text start ∧ IsBoundary text stop ∧ start ≤ stop then
    some (String.Pos.Raw.extract text ⟨start⟩ ⟨stop⟩)
  else none

section

variable (source : String)

/-- The part of the source between two positions, which must be there. -/
def slice (start stop : Nat) : Rule String :=
  ofExcept (present (slice? source start stop))

/-- The next character, if the source has not ended. -/
def peek : Rule (Option Char) := do
  let rest ← slice source (← get) source.utf8ByteSize
  pure rest.toList.head?

/-- The next character, if the source has not ended, and the step behind it. -/
def bump : Rule (Option Char) := do
  match ← peek source with
  | some c => do
    modify (· + c.utf8Size)
    pure (some c)
  | none => pure none

/-- The step behind one more character of a class, if it comes next. -/
def skipOne (among : Char → Bool) (_ : Unit) : Rule (ForInStep Unit) := do
  if (← peek source).any among then do
    let _ ← bump source
    pure (.yield ())
  else pure (.done ())

/-- The steps behind all characters of a class that come next. -/
def skipWhile (among : Char → Bool) (fuel : Nat) : Rule Unit :=
  loop (skipOne source among) fuel ()

/-- The steps behind all blanks that come next. -/
def skipBlanks (fuel : Nat) : Rule Unit :=
  skipWhile source Text.isBlank fuel

/-- The name that comes next. -/
def name (fuel : Nat) : Rule String := do
  let start ← get
  skipWhile source continuesName fuel
  slice source start (← get)

/-- A malformation at the position. -/
def malformed {α : Type} (fault : Malformation) : Rule α := do
  throw (.problem (.malformed (← get) fault))

/-- The step behind a closing bracket, which must come next. -/
def expect (closer : Char) (fuel : Nat) : Rule Unit := do
  skipBlanks source fuel
  match ← bump source with
  | some c => if c = closer then pure () else malformed (.expected closer false c)
  | none => malformed (.unclosed closer)

/-! ## Rules of the grammar -/

mutual

/-- An expression: a term, and all that are added to it. -/
def expr : Nat → Nat → Rule Value
  | 0, _ => exhausted
  | fuel + 1, depth =>
    if Reader.deepestLevel < depth then malformed .nestedTooDeeply
    else do
      let first ← term fuel depth
      loop (nextTerm fuel depth) fuel first

/-- One more term that is added to a sum, if there is one. -/
def nextTerm : Nat → Nat → Value → Rule (ForInStep Value)
  | 0, _, _ => exhausted
  | fuel + 1, depth, sum => do
    skipBlanks source fuel
    if (← peek source) = some '+' then do
      let _ ← bump source
      let v ← term fuel depth
      let sum ← ofExcept (ofOutcome (sum.add v))
      pure (.yield sum)
    else pure (.done sum)

/-- A term: a name, call or list, and all subscripts behind it. -/
def term : Nat → Nat → Rule Value
  | 0, _ => exhausted
  | fuel + 1, depth => do
    let base ← primary fuel depth
    loop (nextIndex fuel depth) fuel base

/-- One more subscript behind a term, if there is one. -/
def nextIndex : Nat → Nat → Value → Rule (ForInStep Value)
  | 0, _, _ => exhausted
  | fuel + 1, depth, base => do
    skipBlanks source fuel
    if (← peek source) = some '[' then do
      let _ ← bump source
      let index ← expr fuel (depth + 1)
      expect source ']' fuel
      let base ← ofExcept (pick base index)
      pure (.yield base)
    else pure (.done base)

/-- A name, call or list. -/
def primary : Nat → Nat → Rule Value
  | 0, _ => exhausted
  | fuel + 1, depth => do
    skipBlanks source fuel
    match ← peek source with
    | none => malformed .unexpectedEnd
    | some c =>
      if c = '[' then do
        let _ ← bump source
        let all ← items fuel ']' (depth + 1)
        pure (.list all)
      else if startsName c then do
        let word ← name source fuel
        match Builtin.ofName? word with
        | none => throw (.problem (.unknownName word))
        | some f => do
          skipBlanks source fuel
          if (← peek source) = some '(' then do
            let _ ← bump source
            let args ← items fuel ')' (depth + 1)
            ofExcept (call f args)
          else pure (.builtin f)
      else malformed (.unexpected c)

/-- The items of a bracket that has opened. -/
def items : Nat → Char → Nat → Rule (List Value)
  | 0, _, _ => exhausted
  | fuel + 1, closer, depth => do
    skipBlanks source fuel
    if (← peek source) = some closer then do
      let _ ← bump source
      pure []
    else loop (nextItem fuel closer depth) fuel []

/-- One more item, and the comma or the end of the bracket behind it. -/
def nextItem : Nat → Char → Nat → List Value → Rule (ForInStep (List Value))
  | 0, _, _, _ => exhausted
  | fuel + 1, closer, depth, done => do
    let v ← expr fuel depth
    skipBlanks source fuel
    match ← bump source with
    | none => malformed (.unclosed closer)
    | some c =>
      if c = ',' then pure (.yield (done ++ [v]))
      else if c = closer then pure (.done (done ++ [v]))
      else malformed (.expected closer true c)

end

/-- A whole source: an expression and nothing else. -/
def evaluate (fuel : Nat) : Rule Value := do
  let v ← expr source fuel 0
  skipBlanks source fuel
  if (← get) < source.utf8ByteSize then malformed .trailing else pure v

end

end Lipogram.Descent
