import Lipogram.Yaml.Token

/-!
# YAML nodes

The tree of a YAML document, put together from its tokens. An anchor gives the node behind it a
number, and an alias stands for the number that its name has where it is written. What carries the
number is known only when the document has ended, since a later node may take the number over.
-/

set_option autoImplicit false

namespace Lipogram.Yaml

/-- A node of a document. -/
inductive Node where
  | alias (number : Nat)
  | scalar (tag : Option String) (style : Style) (text : String)
  | sequence (items : List Node)
  | mapping (pairs : List (Node × Node))

namespace Node

/-- A node that is not written. -/
def missing : Node :=
  .scalar none .plain ""

/-- What is left of the tokens, the numbers of names, the last one given first, how many different
names there are, and the numbered nodes in the order in which they begin. -/
structure Source where
  tokens : List Token
  numbers : List (String × Nat)
  names : Nat
  numbered : Array (Nat × Node)

/-- Nothing has been put together. -/
def Source.start (tokens : List Token) : Source :=
  ⟨tokens, [], 0, #[]⟩

/-- Steps of putting nodes together. -/
abbrev Build := StateT Source (Except Fault)

/-- The next token. -/
def peek : Build (Option Token) := do
  pure (← get).tokens.head?

/-- Goes past the next token. -/
def skip : Build Unit :=
  modify (fun s => { s with tokens := s.tokens.drop 1 })

/-- Goes past the next token if it is the given one, and says whether it is. -/
def accept (token : Token) : Build Bool := do
  if (← peek) = some token then
    skip
    pure true
  else pure false

/-- The handles of tags, and the octets that they stand for. -/
abbrev Handles := List (String × List UInt8)

/-- The tag that a handle and a suffix make. -/
def resolveTag (handles : Handles) (handle : String) (suffix : List UInt8) : Build (List UInt8) :=
  if handle.isEmpty then pure suffix
  else
    match handles.lookup handle with
    | some stem => pure (stem ++ suffix)
    | none => throw .unknownHandle

/-- The anchor and the tag in front of a node, in either order. -/
def properties (handles : Handles) : Build (Option String × Option (List UInt8)) := do
  match ← peek with
  | some (.anchor name) =>
    skip
    match ← peek with
    | some (.tag handle suffix) =>
      skip
      pure (some name, some (← resolveTag handles handle suffix))
    | _ => pure (some name, none)
  | some (.tag handle suffix) =>
    skip
    let tag ← resolveTag handles handle suffix
    match ← peek with
    | some (.anchor name) =>
      skip
      pure (some name, some tag)
    | _ => pure (none, some tag)
  | _ => pure (none, none)

/-- A name gets a number, which is how many names there have been before it; a name that is given
again makes them no more. -/
def giveNumber (name : String) : Build Nat := do
  let s ← get
  let known := (s.numbers.lookup name).isSome
  set { s with
    numbers := (name, s.names) :: s.numbers, names := if known then s.names else s.names + 1 }
  pure s.names

/-- A node that may have an anchor. Its number is taken where it begins, so that the nodes inside it
come after it. -/
def anchored (anchor : Option String) (build : Build Node) : Build Node := do
  match anchor with
  | none => build
  | some name =>
    let number ← giveNumber name
    let slot := (← get).numbered.size
    modify (fun s => { s with numbered := s.numbered.push (number, missing) })
    let n ← build
    modify (fun s => { s with numbered := s.numbered.setIfInBounds slot (number, n) })
    pure n

/-- The text of a tag. A tag that is no UTF-8 counts for nothing. -/
def tagText? (tag : List UInt8) : Option String :=
  String.fromUTF8? ⟨tag.toArray⟩

mutual

/-- A node. In front of a node inside a block collection, block collections are allowed; in front
of a value in a block mapping, a sequence that is not indented too. -/
def node (handles : Handles) (block unindented : Bool) : Nat → Build Node
  | 0 => throw .noNode
  | fuel + 1 => do
    if let some (.alias name) ← peek then
      skip
      match (← get).numbers.lookup name with
      | some number => pure (.alias number)
      | none => throw .unknownAnchor
    else
      let (anchor, tag) ← properties handles
      let optional := anchor.isSome || tag.isSome
      anchored anchor (content handles block unindented optional (tag >>= tagText?) fuel)

/-- A node without its properties. -/
def content (handles : Handles) (block unindented optional : Bool)
    (tag : Option String) : Nat → Build Node
  | 0 => throw .noNode
  | fuel + 1 => do
    match ← peek with
    | some .entry =>
      if unindented then pure (.sequence (← unindentedItems handles fuel))
      else if optional then pure (.scalar tag .plain "")
      else throw .noNode
    | some (.scalar style text) =>
      skip
      pure (.scalar tag style text)
    | some .flowSequence =>
      skip
      pure (.sequence (← flowItems handles true fuel))
    | some .flowMapping =>
      skip
      pure (.mapping (← flowPairs handles true fuel))
    | some .blockSequence =>
      if block then
        skip
        pure (.sequence (← blockItems handles fuel))
      else if optional then pure (.scalar tag .plain "")
      else throw .noNode
    | some .blockMapping =>
      if block then
        skip
        pure (.mapping (← blockPairs handles fuel))
      else if optional then pure (.scalar tag .plain "")
      else throw .noNode
    | _ => if optional then pure (.scalar tag .plain "") else throw .noNode

/-- A node unless one of the given tokens follows. -/
def nodeUnless (handles : Handles) (stops : List Token) (block unindented : Bool) :
    Nat → Build Node
  | 0 => throw .noNode
  | fuel + 1 => do
    match ← peek with
    | none => node handles block unindented fuel
    | some token =>
      if stops.contains token then pure missing else node handles block unindented fuel

/-- The members of a block sequence, to its end. -/
def blockItems (handles : Handles) : Nat → Build (List Node)
  | 0 => throw .noEntry
  | fuel + 1 => do
    if ← accept .entry then
      let n ← nodeUnless handles [.entry, .blockEnd] true false fuel
      pure (n :: (← blockItems handles fuel))
    else if ← accept .blockEnd then pure []
    else throw .noEntry

/-- The members of a sequence that is not indented. -/
def unindentedItems (handles : Handles) : Nat → Build (List Node)
  | 0 => throw .noEntry
  | fuel + 1 => do
    if ← accept .entry then
      let n ← nodeUnless handles [.entry, .key, .value, .blockEnd] true false fuel
      pure (n :: (← unindentedItems handles fuel))
    else pure []

/-- The pairs of a block mapping, to its end. -/
def blockPairs (handles : Handles) : Nat → Build (List (Node × Node))
  | 0 => throw .noKey
  | fuel + 1 => do
    if ← accept .blockEnd then pure []
    else if ← accept .key then
      let k ← nodeUnless handles [.key, .value, .blockEnd] true true fuel
      let v ← blockValue handles fuel
      pure ((k, v) :: (← blockPairs handles fuel))
    else throw .noKey

/-- The value behind a key of a block mapping. -/
def blockValue (handles : Handles) : Nat → Build Node
  | 0 => throw .noNode
  | fuel + 1 => do
    if ← accept .value then nodeUnless handles [.key, .value, .blockEnd] true true fuel
    else pure missing

/-- The members of a flow sequence, to its end. -/
def flowItems (handles : Handles) (first : Bool) : Nat → Build (List Node)
  | 0 => throw .noEntry
  | fuel + 1 => do
    if ← accept .flowSequenceEnd then pure []
    else
      unless first do
        unless ← accept .flowEntry do throw .noEntry
      if ← accept .key then
        let k ← markedKey handles fuel
        let v ← flowValue handles .flowSequenceEnd fuel
        pure (.mapping [(k, v)] :: (← flowItems handles false fuel))
      else if ← accept .flowSequenceEnd then pure []
      else
        let n ← node handles false false fuel
        pure (n :: (← flowItems handles false fuel))

/-- A key behind its mark in a flow sequence. If there is no key, what follows the mark counts as a
part of it. -/
def markedKey (handles : Handles) : Nat → Build Node
  | 0 => throw .noNode
  | fuel + 1 => do
    match ← peek with
    | some .value | some .flowEntry | some .flowSequenceEnd =>
      skip
      pure missing
    | _ => node handles false false fuel

/-- The pairs of a flow mapping, to its end. -/
def flowPairs (handles : Handles) (first : Bool) : Nat → Build (List (Node × Node))
  | 0 => throw .noKey
  | fuel + 1 => do
    if ← accept .flowMappingEnd then pure []
    else
      unless first do
        unless ← accept .flowEntry do throw .noKey
      if ← accept .key then
        let k ← nodeUnless handles [.value, .flowEntry, .flowMappingEnd] false false fuel
        let v ← flowValue handles .flowMappingEnd fuel
        pure ((k, v) :: (← flowPairs handles false fuel))
      else if ← accept .flowMappingEnd then pure []
      else
        let k ← node handles false false fuel
        pure ((k, missing) :: (← flowPairs handles false fuel))

/-- The value behind a key of a flow collection that ends with `close`. -/
def flowValue (handles : Handles) (close : Token) : Nat → Build Node
  | 0 => throw .noNode
  | fuel + 1 => do
    if ← accept .value then nodeUnless handles [.flowEntry, close] false false fuel
    else pure missing

end

/-- The handles of tags that every document has. -/
def standardHandles : Handles :=
  [("!", "!".toUTF8.toList), ("!!", "tag:yaml.org,2002:".toUTF8.toList)]

/-- The directives in front of a document: whether there are any, and the handles of tags. The
version may be given once, and a handle may be. -/
def directives (versions : Nat) (handles : Handles) :
    Nat → Build (Bool × Handles)
  | 0 => throw .noDocumentStart
  | fuel + 1 => do
    match ← peek with
    | some (.version major minor) =>
      if versions == 0 && major == 1 && (minor == 1 || minor == 2) then
        skip
        pure (true, (← directives 1 handles fuel).2)
      else throw .badDirective
    | some (.handle name stem) =>
      if (handles.lookup name).isSome then throw .badDirective
      else
        skip
        pure (true, (← directives versions ((name, stem) :: handles) fuel).2)
    | _ => pure (false, handles)

/-- The one document of a text, if it has one. -/
def document (fuel : Nat) : Build (Option Node) := do
  match ← peek with
  | none => pure none
  | some _ =>
    let (directed, given) ← directives 0 [] fuel
    let handles := given ++ standardHandles
    let marked ← accept .documentStart
    if directed && !marked then throw .noDocumentStart
    let next ← peek
    let empty :=
      match next with
      | none | some .documentStart | some .documentEnd | some (.version _ _) | some (.handle _ _) =>
        true
      | _ => false
    let root ← if marked && empty then pure missing else node handles true false fuel
    modify (fun s => { s with tokens := s.tokens.dropWhile (· == .documentEnd) })
    unless (← get).tokens.isEmpty do throw .severalDocuments
    pure (some root)

end Node

/-- A document: its tree, and its numbered nodes, the last one first. -/
structure Document where
  root : Node
  numbered : List (Nat × Node)

/-- The node that a node of the document stands for: the last one with the number of an alias, and
itself if it is none. -/
def Document.follow (d : Document) (n : Node) : Node :=
  match n with
  | .alias number => (d.numbered.lookup number).getD n
  | _ => n

/-- The document that a text holds; a text with nothing but comments holds none. -/
def document? (text : String) : Except Fault (Option Document) := do
  let tokens ← tokens text
  let (root, source) ← (Node.document (8 * tokens.length + 8)).run (.start tokens)
  pure (root.map (⟨·, source.numbered.toList.reverse⟩))

end Lipogram.Yaml
