import Lipogram.Settings
import Lipogram.Yaml.Node

/-!
# Settings in YAML

A reader of settings. They are read from a mapping with the keys `mode` and `verify`; other keys are
passed over. A document that is left empty says nothing.
-/

set_option autoImplicit false

namespace Lipogram

/-- Why a text does not give settings. -/
inductive SettingsError where
  | yaml (fault : Yaml.Fault)
  | noMapping
  | badKey
  | badMode
  | badVerify
  | twice (key : String)

/-- The wording of the error. -/
def SettingsError.message : SettingsError → String
  | yaml fault => fault.message
  | noMapping => "the settings are no mapping"
  | badKey => "the name of a setting is no text"
  | badMode => "mode is neither basic nor advanced"
  | badVerify => "verify is neither true nor false"
  | twice key => key ++ " is set twice"

namespace Settings

/-- The words that stand for nothing. -/
def isNull (word : String) : Bool :=
  ["", "~", "null", "Null", "NULL"].contains word

/-- The mode that a node names: by a tag of its own, which then is all that the node has, or by its
text. -/
def mode? (n : Yaml.Node) : Option Mode :=
  match n with
  | .scalar tag style text =>
    match tag.map String.toList with
    | some ('!' :: name) =>
      if style = .plain && isNull text then Mode.ofName? (String.ofList name) else none
    | _ => Mode.ofName? text
  | _ => none

/-- The truth value that a node stands for: a plain word in one of three cases, or a literal block
with the tag of truth values. -/
def truth? (n : Yaml.Node) : Option Bool :=
  match n with
  | .scalar tag style text =>
    let typed := style = .literal && tag = some "tag:yaml.org,2002:bool"
    if style = .plain || typed then
      if ["true", "True", "TRUE"].contains text then some true
      else if ["false", "False", "FALSE"].contains text then some false
      else none
    else none
  | _ => none

/-- What a mapping says of the two settings, so far. -/
structure Draft where
  mode : Option Mode
  verify : Option Bool

/-- One more pair of the mapping of a document. -/
def Draft.add (doc : Yaml.Document) (d : Draft) (pair : Yaml.Node × Yaml.Node) :
    Except SettingsError Draft :=
  match doc.follow pair.1 with
  | .scalar _ _ "mode" =>
    match d.mode, mode? (doc.follow pair.2) with
    | some _, _ => .error (.twice "mode")
    | none, some mode => .ok { d with mode := some mode }
    | none, none => .error .badMode
  | .scalar _ _ "verify" =>
    match d.verify, truth? (doc.follow pair.2) with
    | some _, _ => .error (.twice "verify")
    | none, some verify => .ok { d with verify := some verify }
    | none, none => .error .badVerify
  | .scalar _ _ _ => .ok d
  | _ => .error .badKey

/-- The settings that a document gives. -/
def ofDocument (doc : Yaml.Document) : Except SettingsError Settings :=
  match doc.root with
  | .mapping pairs =>
    match pairs.foldlM (Draft.add doc) ⟨none, none⟩ with
    | .ok d => .ok ⟨d.mode.getD standard.mode, d.verify.getD standard.verify⟩
    | .error e => .error e
  | .scalar _ .plain "" => .ok standard
  | _ => .error .noMapping

/-- The settings that a text gives. A text without a document says nothing. -/
def ofYaml (text : String) : Except String Settings :=
  match Yaml.document? text with
  | .error fault => .error (SettingsError.yaml fault).message
  | .ok none => .ok standard
  | .ok (some doc) => (ofDocument doc).mapError SettingsError.message

end Settings

end Lipogram
