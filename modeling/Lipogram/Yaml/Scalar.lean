import Lipogram.Yaml.Cursor
import Lipogram.Yaml.Fault

/-!
# YAML scalars

The texts that YAML scalars stand for: plain ones, quoted ones, and blocks of lines. In the first
two, blanks around a line end are folded to one space, or to one line feed fewer than there are.
-/

set_option autoImplicit false

namespace Lipogram.Yaml

/-- How a scalar is written. -/
inductive Style where
  | plain
  | quoted
  | literal
  | folded
  deriving DecidableEq

/-- What a stretch of blanks inside a scalar stands for; `escaped` if it follows a line end that
was taken away by a backslash. -/
def foldGap (escaped : Bool) (gap : List Char) : List Char :=
  match gap.filter isBreak with
  | [] => if escaped then [] else gap
  | first :: more =>
    if escaped then first :: more
    else if first = '\n' then (if more.isEmpty then [' '] else more)
    else first :: more

/-- A text with the gap behind it; both are reversed. -/
def joinGap (escaped : Bool) (gap text : List Char) : List Char :=
  (foldGap escaped gap.reverse).reverse ++ text

/-- A plain scalar that ends at a place, and whether a line ended behind it. -/
def endPlain (text gap : List Char) (place : Cursor) : Except Fault (String × Bool × Cursor) :=
  .ok (String.ofList text.reverse, gap.any isBreak, place)

/-- A plain scalar from its first character on. The text so far and the gap behind it are reversed.
The second result says whether a line ended behind the scalar. -/
def plainScalar (flow : Bool) (indent : Int) (text gap : List Char) (place : Cursor) :
    List Char → Except Fault (String × Bool × Cursor)
  | [] => endPlain text gap place
  | c :: cs =>
    let here : Cursor := { place with rest := c :: cs }
    if isGap c then
      if c = '\t' && gap.any isBreak && (here.column : Int) < indent then .error .tabIndentation
      else plainScalar flow indent text (c :: gap) here.next cs
    else if !gap.isEmpty &&
        (here.atBorder || c = '#' || (!flow && gap.any isBreak && (here.column : Int) < indent)) then
      endPlain text gap here
    else if flow && c = ':' && (",?[]\x7b\x7d".toList.any (cs.head? == some ·)) then
      .error .unexpectedColon
    else if (c = ':' && here.gapAt 1) || (flow && ",[]\x7b\x7d".toList.contains c) then
      endPlain text gap here
    else plainScalar flow indent (c :: joinGap false gap text) [] here.next cs

/-- The character that a letter behind a backslash stands for. -/
def escape? : Char → Option Char
  | '0' => some '\x00'
  | 'a' => some '\x07'
  | 'b' => some '\x08'
  | 't' | '\t' => some '\t'
  | 'n' => some '\n'
  | 'v' => some '\x0b'
  | 'f' => some '\x0c'
  | 'r' => some '\r'
  | 'e' => some '\x1b'
  | ' ' => some ' '
  | '\x22' => some '\x22'
  | '/' => some '/'
  | '\x5c' => some '\x5c'
  | 'N' => some '\u0085'
  | '_' => some '\u00a0'
  | 'L' => some '\u2028'
  | 'P' => some '\u2029'
  | _ => none

/-- How many digits follow a letter behind a backslash. -/
def escapeDigits? : Char → Option Nat
  | 'x' => some 2
  | 'u' => some 4
  | 'U' => some 8
  | _ => none

/-- The value of a digit of base sixteen. -/
def hexValue? (c : Char) : Option Nat :=
  if c.isDigit then some (c.toNat - 48)
  else if 'a' ≤ c && c ≤ 'f' then some (c.toNat - 87)
  else if 'A' ≤ c && c ≤ 'F' then some (c.toNat - 55)
  else none

/-- Where the reader of a quoted scalar stands: between characters, behind a backslash, inside the
digits of an escape, or behind an apostrophe. -/
inductive QuoteState where
  | text
  | backslash
  | digits (left value : Nat)
  | apostrophe

/-- A scalar from behind its opening quote on. The text so far and the gap behind it are reversed;
`escaped` says that the gap follows a line end that was taken away. -/
def quotedScalar (double : Bool) (text gap : List Char) (escaped : Bool) (state : QuoteState)
    (place : Cursor) : List Char → Except Fault (String × Cursor)
  | [] =>
    match state with
    | .apostrophe => .ok (String.ofList text.reverse, place)
    | _ => .error .unclosedQuote
  | c :: cs =>
    let here : Cursor := { place with rest := c :: cs }
    match state with
    | .text =>
      if here.atBorder then .error .unclosedQuote
      else if isGap c then quotedScalar double text (c :: gap) escaped .text here.next cs
      else if double && c = '\x22' then .ok (String.ofList (joinGap escaped gap text).reverse, here.next)
      else if double && c = '\x5c' then
        quotedScalar double (joinGap escaped gap text) [] false .backslash here.next cs
      else if !double && c = '\x27' then
        quotedScalar double (joinGap escaped gap text) [] false .apostrophe here.next cs
      else quotedScalar double (c :: joinGap escaped gap text) [] false .text here.next cs
    | .apostrophe =>
      if c = '\x27' then quotedScalar double (c :: text) [] false .text here.next cs
      else .ok (String.ofList text.reverse, here)
    | .backslash =>
      if isBreak c then quotedScalar double text [] true .text here.next cs
      else
        match escape? c, escapeDigits? c with
        | some e, _ => quotedScalar double (e :: text) [] false .text here.next cs
        | none, some n => quotedScalar double text [] false (.digits n 0) here.next cs
        | none, none => .error .badEscape
    | .digits left value =>
      match hexValue? c with
      | none => .error .badEscape
      | some d =>
        let value := 16 * value + d
        if 1 < left then quotedScalar double text [] false (.digits (left - 1) value) here.next cs
        else if value.isValidChar then
          quotedScalar double (Char.ofNat value :: text) [] false .text here.next cs
        else .error .badEscape

/-- The indentation and line ends in front of a line of a block scalar: how far the deepest of the
lines without content reaches, the line ends reversed, and the place of the content. Without a known
indentation (zero) all spaces belong to it. -/
def blockGap (indent deepest : Nat) (breaks : List Char) (place : Cursor) :
    List Char → Except Fault (Nat × List Char × Cursor)
  | [] => .ok (max deepest place.column, breaks, place)
  | c :: cs =>
    let here : Cursor := { place with rest := c :: cs }
    let deepest := max deepest here.column
    if c = ' ' && (indent == 0 || here.column < indent) then
      blockGap indent deepest breaks here.next cs
    else if c = '\t' && (indent == 0 || here.column < indent) then .error .tabIndentation
    else if isBreak c then blockGap indent deepest (c :: breaks) here.next cs
    else .ok (deepest, breaks, here)

/-- What is left of the line ends behind a block scalar. -/
inductive Chomping where
  | strip
  | clip
  | keep

/-- The lines of a block scalar. `lead` is the end of the last line, `breaks` are the line ends
behind it, `blank` says whether that line began with a blank; texts are reversed. -/
def blockLines (folded : Bool) (chomping : Chomping) (indent fuel : Nat) (text lead breaks : List Char)
    (blank : Bool) (place : Cursor) : Except Fault (String × Cursor) :=
  match fuel, place.rest with
  | fuel + 1, c :: _ =>
    if place.column == indent then do
      let space := isSpace c
      let text :=
        if folded && lead == ['\n'] && !blank && !space then
          if breaks.isEmpty then ' ' :: text else breaks ++ text
        else breaks ++ (lead ++ text)
      let (line, stop) := place.span (fun _ => true)
      let lead := stop.rest.take 1
      let (_, breaks, place) ← blockGap indent 0 [] stop.next stop.next.rest
      blockLines folded chomping indent fuel (line.reverse ++ text) lead breaks space place
    else finish
  | _, _ => finish
where
  /-- The scalar without the line ends that do not belong to it. -/
  finish : Except Fault (String × Cursor) :=
    let kept :=
      match chomping with
      | .strip => text
      | .clip => lead ++ text
      | .keep => breaks ++ (lead ++ text)
    .ok (String.ofList kept.reverse, place)

/-- The header of a block scalar behind its first character: what becomes of the last line ends, and
by how much the lines are indented if that is said. -/
def blockHeader (place : Cursor) : Except Fault (Chomping × Nat × Cursor) := do
  let chomping? (c : Char) : Option Chomping :=
    if c = '+' then some .keep else if c = '-' then some .strip else none
  let digit? (c : Char) : Option Nat := if c.isDigit then some (c.toNat - 48) else none
  let (chomping, depth, place) :=
    match place.rest.head?.bind chomping? with
    | some chomping =>
      match (place.forward 1).rest.head?.bind digit? with
      | some n => (chomping, some n, place.forward 2)
      | none => (chomping, none, place.forward 1)
    | none =>
      match place.rest.head?.bind digit? with
      | some n =>
        match (place.forward 1).rest.head?.bind chomping? with
        | some chomping => (chomping, some n, place.forward 2)
        | none => (.clip, some n, place.forward 1)
      | none => (Chomping.clip, none, place)
  if depth == some 0 then throw .badBlockHeader
  let (_, place) := place.span isSpace
  let place :=
    if place.rest.head? == some '#' then (place.span (fun _ => true)).2 else place
  unless place.lineEndAt 0 do throw .badBlockHeader
  pure (chomping, depth.getD 0, place.next)

/-- A block scalar behind its first character, inside a collection that is indented by `parent`. -/
def blockScalar (folded : Bool) (parent : Int) (place : Cursor) :
    Except Fault (String × Cursor) := do
  let (chomping, depth, place) ← blockHeader place
  let said := if depth == 0 then 0 else (if 0 ≤ parent then parent.toNat + depth else depth)
  let (deepest, breaks, place) ← blockGap said 0 [] place place.rest
  let indent := if said == 0 then max (max deepest (parent + 1).toNat) 1 else said
  blockLines folded chomping indent (place.rest.length + 1) [] [] breaks false place

end Lipogram.Yaml
