/-!
# Faults of YAML documents

Why characters are no YAML document. The first group of faults is met while the tokens of a
document are found, the second while they are put together to nodes.
-/

set_option autoImplicit false

namespace Lipogram.Yaml

/-- Why a text is no single YAML document. -/
inductive Fault where
  | forbiddenCharacter
  | tabIndentation
  | keyWithoutValue
  | keyNotAllowed
  | valueNotAllowed
  | entryNotAllowed
  | noTokenStart
  | badName
  | badTag
  | badDirective
  | badEscape
  | unclosedQuote
  | badBlockHeader
  | unexpectedColon
  | noDocumentStart
  | noNode
  | noEntry
  | noKey
  | unknownAnchor
  | unknownHandle
  | severalDocuments
  deriving DecidableEq

/-- The wording of a fault. -/
def Fault.message : Fault → String
  | forbiddenCharacter => "a control character stands in the text"
  | tabIndentation => "a tab stands where lines are indented"
  | keyWithoutValue => "no ':' stands behind a key"
  | keyNotAllowed => "a key may not begin here"
  | valueNotAllowed => "a value may not begin here"
  | entryNotAllowed => "an item may not begin here"
  | noTokenStart => "nothing may begin with this character"
  | badName => "a name has no letters, or goes on with a wrong character"
  | badTag => "a tag is malformed"
  | badDirective => "a directive is malformed or out of place"
  | badEscape => "a backslash begins no escape"
  | unclosedQuote => "a quotation has no end"
  | badBlockHeader => "the first line of a block is malformed"
  | unexpectedColon => "a ':' stands where it cannot"
  | noDocumentStart => "a document does not begin where it must"
  | noNode => "a value is missing"
  | noEntry => "an item or the end of a sequence is missing"
  | noKey => "a key or the end of a mapping is missing"
  | unknownAnchor => "an alias names nothing"
  | unknownHandle => "a tag begins with an unknown handle"
  | severalDocuments => "there is more than one document"

end Lipogram.Yaml
