/-!
# Places in a YAML text

A cursor is a place in a text: the characters behind it, how many octets of UTF-8 stand before it in
the text, and how many characters in its line. A line ends with a line feed, or with one of the two
Unicode separators; the other line ends are line feeds by the time a cursor sees them.
-/

set_option autoImplicit false

namespace Lipogram.Yaml

/-- Characters that separate words within a line. -/
def isSpace (c : Char) : Bool :=
  c == ' ' || c == '\t'

/-- Characters that end a line. -/
def isBreak (c : Char) : Bool :=
  c == '\n' || c == '\u2028' || c == '\u2029'

/-- Characters that separate words. -/
def isGap (c : Char) : Bool :=
  isSpace c || isBreak c

/-- Letters of directive names, anchors and tag handles. -/
def isWordChar (c : Char) : Bool :=
  c.isAlphanum || c == '_' || c == '-'

/-- How many octets of UTF-8 characters take. -/
def octetCount (cs : List Char) : Nat :=
  cs.foldl (fun n c => n + c.utf8Size) 0

/-- A place in a text. -/
structure Cursor where
  rest : List Char
  offset : Nat
  line : Nat
  column : Nat

namespace Cursor

/-- The place before a text. -/
def start (cs : List Char) : Cursor :=
  ⟨cs, 0, 0, 0⟩

/-- The place behind a number of characters of the same line. -/
def forward (c : Cursor) (n : Nat) : Cursor :=
  ⟨c.rest.drop n, c.offset + octetCount (c.rest.take n), c.line, c.column + n⟩

/-- The place behind one character that ends the line. -/
def newline (c : Cursor) : Cursor :=
  ⟨c.rest.drop 1, c.offset + octetCount (c.rest.take 1), c.line + 1, 0⟩

/-- The place behind the next character. -/
def next (c : Cursor) : Cursor :=
  match c.rest with
  | [] => c
  | ch :: _ => if isBreak ch then c.newline else c.forward 1

/-- The characters of the line that have a property, and the place behind them. -/
def span (c : Cursor) (p : Char → Bool) : List Char × Cursor :=
  let run := c.rest.takeWhile (fun ch => p ch && !isBreak ch)
  (run, c.forward run.length)

/-- Whether the character `n` places on separates words, or the text ends before it. -/
def gapAt (c : Cursor) (n : Nat) : Bool :=
  match c.rest.drop n with
  | [] => true
  | ch :: _ => isGap ch

/-- Whether the line ends `n` places on. -/
def lineEndAt (c : Cursor) (n : Nat) : Bool :=
  match c.rest.drop n with
  | [] => true
  | ch :: _ => isBreak ch

/-- Whether three like characters at the beginning of a line mark the border of a document here. -/
def marksDocument (c : Cursor) (ch : Char) : Bool :=
  c.column == 0 && c.rest.take 3 == [ch, ch, ch] && c.gapAt 3

/-- Whether a border of a document is marked here. -/
def atBorder (c : Cursor) : Bool :=
  c.marksDocument '-' || c.marksDocument '.'

end Cursor

end Lipogram.Yaml
