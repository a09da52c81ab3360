import Lipogram.Yaml.Scalar

/-!
# YAML tokens

The tokens of a YAML text. Besides the tokens that are written there are tokens for what the
indentation says: where block collections begin and end, and where their keys begin. A key without
a mark of its own is known only by the colon behind it, so its token is put in late, in front of
the tokens of the key. What stands in a tag is known as octets, since a tag can spell any of them.
-/

set_option autoImplicit false

namespace Lipogram.Yaml

/-- A token of a YAML text. -/
inductive Token where
  | version (major minor : Nat)
  | handle (name : String) (stem : List UInt8)
  | documentStart
  | documentEnd
  | blockSequence
  | blockMapping
  | blockEnd
  | flowSequence
  | flowSequenceEnd
  | flowMapping
  | flowMappingEnd
  | entry
  | flowEntry
  | key
  | value
  | alias (name : String)
  | anchor (name : String)
  | tag (handle : String) (suffix : List UInt8)
  | scalar (style : Style) (text : String)
  deriving DecidableEq

/-- A place where a key without a mark may begin: the number of tokens in front of it, its place,
and whether the indentation allows nothing but a key there. -/
structure KeyStart where
  tokens : Nat
  offset : Nat
  line : Nat
  column : Nat
  required : Bool

/-- The state of the search for tokens. The list of key starts has one member for the block level,
and one for each open flow collection, the innermost first. -/
structure Tokenizer where
  place : Cursor
  tokens : Array Token
  indent : Int
  outer : List Int
  keyAllowed : Bool
  keys : List (Option KeyStart)

namespace Tokenizer

/-- The state before a text. -/
def start (cs : List Char) : Tokenizer :=
  ⟨.start cs, #[], -1, [], true, [none]⟩

/-- Whether a flow collection is open. -/
def inFlow (t : Tokenizer) : Bool :=
  1 < t.keys.length

/-- The column of the next character. -/
def column (t : Tokenizer) : Int :=
  t.place.column

/-- The state with one more token. -/
def push (t : Tokenizer) (token : Token) : Tokenizer :=
  { t with tokens := t.tokens.push token }

/-- Whether a key start is still good: the key must end on its line and within 1024 octets. -/
def isFresh (t : Tokenizer) (k : KeyStart) : Bool :=
  k.line == t.place.line && t.place.offset ≤ k.offset + 1024

/-- The key start on the innermost level. -/
def possibleKey (t : Tokenizer) : Option KeyStart :=
  t.keys.head?.join

/-- The state with another key start on the innermost level. -/
def setKey (t : Tokenizer) (k : Option KeyStart) : Tokenizer :=
  { t with keys := k :: t.keys.drop 1 }

/-- A key start that is given up; nothing but a key may have been there. -/
def dropKey (t : Tokenizer) : Except Fault Tokenizer :=
  match t.possibleKey with
  | some k => if k.required then .error .keyWithoutValue else .ok (t.setKey none)
  | none => .ok t

/-- Key starts that have gone stale are given up. -/
def dropStaleKeys (t : Tokenizer) : Except Fault Tokenizer := do
  let keys ← t.keys.mapM (fun key =>
    match key with
    | some k =>
      if t.isFresh k then .ok (some k)
      else if k.required then .error Fault.keyWithoutValue
      else .ok none
    | none => .ok none)
  pure { t with keys := keys }

/-- A key may begin here, if keys are allowed. -/
def saveKey (t : Tokenizer) : Except Fault Tokenizer :=
  if t.keyAllowed then do
    let t ← t.dropKey
    pure (t.setKey (some ⟨t.tokens.size, t.place.offset, t.place.line, t.place.column,
      !t.inFlow && t.indent == t.column⟩))
  else .ok t

/-- Block collections that are indented deeper than a column end. -/
def unroll (t : Tokenizer) (column : Int) : Tokenizer :=
  if t.inFlow then t else close t (t.outer.length + 1)
where
  /-- Ends at most a number of collections. -/
  close (t : Tokenizer) : Nat → Tokenizer
    | 0 => t
    | n + 1 =>
      if column < t.indent then
        close { t.push .blockEnd with
          indent := t.outer.headD (-1), outer := t.outer.drop 1 } n
      else t

/-- A block collection begins at a column deeper than the indentation; its token comes behind a
number of tokens. -/
def roll (t : Tokenizer) (column : Int) (behind : Nat) (token : Token) : Tokenizer :=
  if !t.inFlow && t.indent < column then
    { t with
      indent := column, outer := t.indent :: t.outer,
      tokens := t.tokens.insertIdxIfInBounds behind token }
  else t

/-- The state behind `n` characters of the line. -/
def forward (t : Tokenizer) (n : Nat) : Tokenizer :=
  { t with place := t.place.forward n }

/-- The state behind blanks, comments and line ends. In front of a key, tabs are no blanks; a mark
of the byte order at the beginning of a line is one. -/
def skipGap (t : Tokenizer) : Tokenizer :=
  go t.keyAllowed false t.place t.place.rest
where
  /-- Skips characters; `comment` says that a comment is being skipped. -/
  go (keyAllowed comment : Bool) (place : Cursor) : List Char → Tokenizer
    | [] => { t with place := { place with rest := [] }, keyAllowed := keyAllowed }
    | c :: cs =>
      let here : Cursor := { place with rest := c :: cs }
      if isBreak c then go (keyAllowed || !t.inFlow) false here.next cs
      else if comment || c = ' ' || (c = '\t' && (t.inFlow || !keyAllowed)) ||
          (c = '\ufeff' && here.column == 0) then
        go keyAllowed comment here.next cs
      else if c = '#' then go keyAllowed true here.next cs
      else { t with place := here, keyAllowed := keyAllowed }

/-- An opening bracket of a flow collection. -/
def openFlow (t : Tokenizer) (token : Token) : Except Fault Tokenizer := do
  let t ← t.saveKey
  pure (({ t with keys := none :: t.keys, keyAllowed := true }.forward 1).push token)

/-- A closing bracket of a flow collection. -/
def closeFlow (t : Tokenizer) (token : Token) : Except Fault Tokenizer := do
  let t ← t.dropKey
  let keys := if t.inFlow then t.keys.drop 1 else t.keys
  pure (({ t with keys := keys, keyAllowed := false }.forward 1).push token)

/-- A comma between the members of a flow collection. -/
def flowEntry (t : Tokenizer) : Except Fault Tokenizer := do
  let t ← t.dropKey
  pure (({ t with keyAllowed := true }.forward 1).push .flowEntry)

/-- A dash in front of a member of a block sequence. -/
def blockEntry (t : Tokenizer) : Except Fault Tokenizer := do
  if !t.inFlow && !t.keyAllowed then throw .entryNotAllowed
  let t ← (t.roll t.column t.tokens.size .blockSequence).dropKey
  pure (({ t with keyAllowed := true }.forward 1).push .entry)

/-- A question mark in front of a key. -/
def markedKey (t : Tokenizer) : Except Fault Tokenizer := do
  if !t.inFlow && !t.keyAllowed then throw .keyNotAllowed
  let t ← (t.roll t.column t.tokens.size .blockMapping).dropKey
  pure (({ t with keyAllowed := !t.inFlow }.forward 1).push .key)

/-- A colon in front of a value. -/
def value (t : Tokenizer) : Except Fault Tokenizer := do
  match t.possibleKey with
  | some k =>
    let t := { t with tokens := t.tokens.insertIdxIfInBounds k.tokens .key }
    let t := (t.roll k.column k.tokens .blockMapping).setKey none
    pure (({ t with keyAllowed := false }.forward 1).push .value)
  | none =>
    if !t.inFlow && !t.keyAllowed then throw .valueNotAllowed
    let t := t.roll t.column t.tokens.size .blockMapping
    pure (({ t with keyAllowed := !t.inFlow }.forward 1).push .value)

/-- A border of a document. -/
def border (t : Tokenizer) (token : Token) : Except Fault Tokenizer := do
  let t ← (t.unroll (-1)).dropKey
  pure (({ t with keyAllowed := false }.forward 3).push token)

/-- An alias, or the anchor of a node. -/
def named (t : Tokenizer) (token : String → Token) : Except Fault Tokenizer := do
  let t ← t.saveKey
  let (name, place) := (t.place.forward 1).span isWordChar
  let stops := place.gapAt 0 || "?:,]\x7d%@\x60".toList.any (place.rest.head? == some ·)
  if name.isEmpty || !stops then throw .badName
  pure ({ t with place := place, keyAllowed := false }.push (token (String.ofList name)))

/-- Characters that may stand in a tag. -/
def isTagChar (c : Char) : Bool :=
  isWordChar c || ";/?:@&=+$.!~*\x27()%".toList.contains c

/-- A handle of tags: an exclamation mark, or a name between two of them. -/
def tagHandle (place : Cursor) : List Char × Cursor :=
  let (name, stop) := (place.forward 1).span isWordChar
  if stop.rest.head? == some '!' then ('!' :: (name ++ ['!']), stop.forward 1)
  else ('!' :: name, stop)

/-- How many octets follow the first one of a character, as its high bits say. -/
def followers? (octet : UInt8) : Option Nat :=
  if octet < 0x80 then some 0
  else if octet >>> 5 = 6 then some 1
  else if octet >>> 4 = 14 then some 2
  else if octet >>> 3 = 30 then some 3
  else none

/-- The octets that a part of a tag spells: a percent sign and two digits spell any octet. The high
bits must be those of UTF-8; `left` octets of a character are still to come. -/
def spelled? (left : Nat) : List Char → Option (List UInt8)
  | [] => if left = 0 then some [] else none
  | '%' :: a :: b :: cs => do
    let octet := UInt8.ofNat (16 * (← hexValue? a) + (← hexValue? b))
    let left ←
      if left = 0 then followers? octet
      else if octet >>> 6 = 2 then some (left - 1)
      else none
    pure (octet :: (← spelled? left cs))
  | c :: cs =>
    if left = 0 && c != '%' then do pure (UInt8.ofNat c.toNat :: (← spelled? 0 cs)) else none

/-- The octets of a part of a tag. A null octet ends it, whatever follows. -/
def tagPart (cs : List Char) : Except Fault (List UInt8) :=
  match spelled? 0 cs with
  | some octets => .ok (octets.takeWhile (· != 0))
  | none => .error .badTag

/-- The tag of a node. -/
def tag (t : Tokenizer) : Except Fault Tokenizer := do
  let t ← t.saveKey
  let (token, place) ←
    if (t.place.forward 1).rest.head? == some '<' then do
      let (name, stop) := (t.place.forward 2).span (fun c => isTagChar c || ",[]".toList.contains c)
      if name.isEmpty || stop.rest.head? != some '>' then throw .badTag
      pure (Token.tag "" (← tagPart name), stop.forward 1)
    else
      let (name, stop) := tagHandle t.place
      let (suffix, place) := stop.span isTagChar
      if 1 < name.length && name.getLast? == some '!' then
        if suffix.isEmpty then throw .badTag
        else pure (Token.tag (String.ofList name) (← tagPart suffix), place)
      else
        let whole ← tagPart (name.drop 1 ++ suffix)
        if whole.isEmpty then pure (Token.tag "" [0x21], place)
        else pure (Token.tag "!" whole, place)
  let stops := place.gapAt 0 || (t.inFlow && place.rest.head? == some ',')
  unless stops do throw Fault.badTag
  pure ({ t with place := place, keyAllowed := false }.push token)

/-- A block scalar. -/
def block (t : Tokenizer) (folded : Bool) : Except Fault Tokenizer := do
  let t ← t.dropKey
  let (text, place) ← blockScalar folded t.indent (t.place.forward 1)
  pure ({ t with place := place, keyAllowed := true }.push
    (.scalar (if folded then .folded else .literal) text))

/-- A quoted scalar. -/
def quoted (t : Tokenizer) (double : Bool) : Except Fault Tokenizer := do
  let t ← t.saveKey
  let place := t.place.forward 1
  let (text, place) ← quotedScalar double [] [] false .text place place.rest
  pure ({ t with place := place, keyAllowed := false }.push (.scalar .quoted text))

/-- A plain scalar. -/
def plain (t : Tokenizer) : Except Fault Tokenizer := do
  let t ← t.saveKey
  let (text, ended, place) ← plainScalar t.inFlow (t.indent + 1) [] [] t.place t.place.rest
  pure ({ t with place := { place with rest := place.rest }, keyAllowed := ended }.push
    (.scalar .plain text))

/-- A directive: the version of YAML, or a handle of tags. -/
def directive (t : Tokenizer) : Except Fault Tokenizer := do
  let t ← (t.unroll (-1)).dropKey
  let (name, place) := (t.place.forward 1).span isWordChar
  unless place.gapAt 0 do throw .badDirective
  let (_, place) := place.span isSpace
  let (token, place) ←
    match String.ofList name with
    | "YAML" => do
      let (major, stop) := place.span Char.isDigit
      let (minor, place) := (stop.forward 1).span Char.isDigit
      let isNumber (ds : List Char) : Bool := !ds.isEmpty && ds.length < 10
      unless isNumber major && isNumber minor && stop.rest.head? == some '.' do throw .badDirective
      let number (ds : List Char) : Nat := ds.foldl (fun n c => 10 * n + (c.toNat - 48)) 0
      pure (Token.version (number major) (number minor), place)
    | "TAG" => do
      let (handle, stop) := tagHandle place
      let (stem, behind) :=
        (stop.span isSpace).2.span (fun c => isTagChar c || ",[]".toList.contains c)
      if place.rest.head? != some '!' || handle.getLast? != some '!' || !stop.gapAt 0 ||
          stem.isEmpty || !behind.gapAt 0 then throw .badDirective
      pure (Token.handle (String.ofList handle) (← tagPart stem), behind)
    | _ => throw Fault.badDirective
  let (_, place) := place.span isSpace
  let place :=
    if place.rest.head? == some '#' then (place.span (fun _ => true)).2 else place
  unless place.lineEndAt 0 do throw Fault.badDirective
  pure ({ t with place := place.next, keyAllowed := false }.push token)

/-- The next token, which begins with the character `c`. -/
def token (t : Tokenizer) (c : Char) : Except Fault Tokenizer :=
  let gap := t.place.gapAt 1
  let spaced := (t.place.rest.drop 1).head?.any isSpace
  if t.column == 0 && c = '%' then t.directive
  else if t.place.marksDocument '-' then t.border .documentStart
  else if t.place.marksDocument '.' then t.border .documentEnd
  else if c = '[' then t.openFlow .flowSequence
  else if c = '\x7b' then t.openFlow .flowMapping
  else if c = ']' then t.closeFlow .flowSequenceEnd
  else if c = '\x7d' then t.closeFlow .flowMappingEnd
  else if c = ',' then t.flowEntry
  else if c = '-' && gap then t.blockEntry
  else if c = '?' && (t.inFlow || gap) then t.markedKey
  else if c = ':' && (t.inFlow || gap) then t.value
  else if c = '*' then t.named .alias
  else if c = '&' then t.named .anchor
  else if c = '!' then t.tag
  else if c = '|' && !t.inFlow then t.block false
  else if c = '>' && !t.inFlow then t.block true
  else if c = '\x27' then t.quoted false
  else if c = '\x22' then t.quoted true
  else if (c = '-' && !spaced) || (c = '?' && !t.inFlow) || (c = ':' && !t.inFlow) ||
      !"\t-?:,[]\x7b\x7d#&*!|>\x27\x22%@\x60".toList.contains c then t.plain
  else .error .noTokenStart

/-- All tokens of a text; `fuel` is at least the number of its characters. -/
def run (t : Tokenizer) : Nat → Except Fault Tokenizer
  | 0 => .ok t
  | fuel + 1 => do
    let t ← t.skipGap.dropStaleKeys
    let t := t.unroll t.column
    match t.place.rest with
    | [] => (t.unroll (-1)).dropKey
    | c :: _ => run (← t.token c) fuel

end Tokenizer

/-- Characters that may stand in a YAML text. -/
def isAllowed (c : Char) : Bool :=
  let n := c.toNat
  n == 0x09 || n == 0x0A || n == 0x0D || (0x20 ≤ n && n ≤ 0x7E) || n == 0x85 ||
    (0xA0 ≤ n && n ≤ 0xFFFD) || 0x10000 ≤ n

/-- A text with line feeds for all other ends of lines. -/
def unifyLines : List Char → List Char
  | '\r' :: '\n' :: cs => '\n' :: unifyLines cs
  | c :: cs => (if c = '\r' || c = '\u0085' then '\n' else c) :: unifyLines cs
  | [] => []

/-- The tokens of a text. -/
def tokens (text : String) : Except Fault (List Token) := do
  let cs := text.toList
  unless cs.all isAllowed do throw .forbiddenCharacter
  let cs := unifyLines cs
  pure (← (Tokenizer.start cs).run (cs.length + 1)).tokens.toList

end Lipogram.Yaml
