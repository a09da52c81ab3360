import Lipogram.CommandLine

/-!
# A reader of command lines

Arguments are read from left to right; the first one that cannot be understood, and the first
request for help or for the version, ends the reading.

Options may be given long (`--mode basic`, `--mode=basic`) or short (`-m basic`, `-mbasic`,
`-m=basic`), and short flags may be run together (`-vm basic`). An option may be given once in each
scope: before the command, and after it. Two dashes end the options.
-/

set_option autoImplicit false

namespace Lipogram

namespace CommandLine

/-- Why a command line asks for nothing else to be done. -/
inductive Stop where
  | misuse
  | help
  | version
  deriving DecidableEq

/-- Where an argument stands: before the command, or behind one. -/
inductive Scope where
  | top
  | encode
  | numeral
  | demonstrate
  | version
  | help
  deriving DecidableEq

/-- Options without a value. -/
inductive Flag where
  | verbose
  | verify
  | help
  | version

/-- Options with a value. -/
inductive Slot where
  | config
  | file
  | mode
  | output

/-- Options of either kind. -/
inductive Switch where
  | flag (f : Flag)
  | slot (s : Slot)

/-- The command that a word names. -/
def Scope.ofWord? (word : String) : Option Scope :=
  match word with
  | "encode" => some encode
  | "numeral" => some numeral
  | "demo" => some demonstrate
  | "version" => some version
  | "help" => some help
  | _ => none

/-- The option with a long name. -/
def Scope.long? (scope : Scope) (name : String) : Option Switch :=
  match name with
  | "verbose" => some (.flag .verbose)
  | "config" => some (.slot .config)
  | "help" => some (.flag .help)
  | "version" => if scope = top then some (.flag .version) else none
  | "verify" => if scope = encode then some (.flag .verify) else none
  | "file" => if scope = encode then some (.slot .file) else none
  | "mode" => if scope = encode then some (.slot .mode) else none
  | "output" => if scope = encode then some (.slot .output) else none
  | _ => none

/-- The option with a letter. -/
def Scope.short? (scope : Scope) (letter : Char) : Option Switch :=
  match letter with
  | 'v' => some (.flag .verbose)
  | 'h' => some (.flag .help)
  | 'V' => if scope = top then some (.flag .version) else none
  | 'f' => if scope = encode then some (.slot .file) else none
  | 'm' => if scope = encode then some (.slot .mode) else none
  | 'o' => if scope = encode then some (.slot .output) else none
  | _ => none

/-- What has been given in one scope. -/
structure Given where
  verbose : Bool
  verify : Bool
  config : Option String
  file : Option String
  mode : Option Mode
  output : Option String
  text : Option String
  number : Option Int

/-- Nothing has been given. -/
def Given.nothing : Given :=
  ⟨false, false, .none, .none, .none, .none, .none, .none⟩

/-- A command line while it is read: the scope, what was given before the command and in the scope,
the option that waits for its value, and whether the options have ended. -/
structure Draft where
  scope : Scope
  outer : Given
  given : Given
  waiting : Option Slot
  ended : Bool

/-- A command line of which nothing has been read. -/
def Draft.start : Draft :=
  ⟨.top, .nothing, .nothing, none, false⟩

/-- Fills a place that must still be free. -/
def fill {α : Type} (place : Option α) (content : α) : Except Stop (Option α) :=
  match place with
  | none => .ok (some content)
  | some _ => .error .misuse

/-- A path has at least one character. -/
def path (word : String) : Except Stop String :=
  if word.isEmpty then .error .misuse else .ok word

/-- The value of a slot is given. -/
def Given.set (g : Given) (slot : Slot) (word : String) : Except Stop Given := do
  match slot with
  | .config => pure { g with config := ← fill g.config (← path word) }
  | .file => pure { g with file := ← fill g.file (← path word) }
  | .output => pure { g with output := ← fill g.output (← path word) }
  | .mode =>
    match Mode.ofName? word with
    | some mode => pure { g with mode := ← fill g.mode mode }
    | none => throw .misuse

/-- A flag is raised. -/
def Given.raise (g : Given) (flag : Flag) : Except Stop Given :=
  match flag with
  | .verbose => if g.verbose then .error .misuse else .ok { g with verbose := true }
  | .verify => if g.verify then .error .misuse else .ok { g with verify := true }
  | .help => .error .help
  | .version => .error .version

/-- The integer that a word of ASCII digits with an optional sign stands for, if 64 bits hold it. -/
def integer? (word : String) : Option Int :=
  let value (digits : List Char) : Option Nat :=
    if !digits.isEmpty && digits.all Char.isDigit then
      some (digits.foldl (fun n c => 10 * n + (c.toNat - 48)) 0)
    else none
  let wide : Option Int :=
    match word.toList with
    | '-' :: digits => (value digits).map (fun n => -(n : Int))
    | '+' :: digits => (value digits).map (fun n => (n : Int))
    | digits => (value digits).map (fun n => (n : Int))
  wide.filter (fun n => Int64.minValue.toInt ≤ n && n ≤ Int64.maxValue.toInt)

/-- Whether the characters behind a dash make it a number rather than letters of options: digits,
of which all but the first place may have one point, and behind that one `e` or `E` that is not the
last. -/
def looksNumeric (cs : List Char) : Bool :=
  let marksExponent (c : Char) : Bool := c == 'e' || c == 'E'
  let mantissa := cs.takeWhile (!marksExponent ·)
  let exponent := cs.dropWhile (!marksExponent ·)
  let plain (ds : List Char) : Bool := ds.all Char.isDigit
  let dotted :=
    match mantissa.takeWhile (· != '.'), mantissa.dropWhile (· != '.') with
    | whole, [] => plain whole
    | whole, _ :: fraction => !whole.isEmpty && plain whole && plain fraction
  match exponent with
  | [] => dotted
  | _ :: digits => dotted && !mantissa.isEmpty && !digits.isEmpty && plain digits

/-- An argument that is no option, nor the value of one. -/
def Draft.plain (d : Draft) (word : String) : Except Stop Draft := do
  match d.scope with
  | .encode => pure { d with given := { d.given with text := ← fill d.given.text word } }
  | .numeral =>
    match integer? word with
    | some n => pure { d with given := { d.given with number := ← fill d.given.number n } }
    | none => throw .misuse
  | _ => throw .misuse

/-- A word behind `help`: the one command that help is wanted for. -/
def Draft.topic (d : Draft) (word : String) : Except Stop Draft := do
  match Scope.ofWord? word with
  | some _ => pure { d with given := { d.given with text := ← fill d.given.text word } }
  | none => throw .misuse

/-- A word that is no option: the value that an option waits for, a command, or a plain argument. -/
def Draft.word (d : Draft) (word : String) : Except Stop Draft := do
  match d.waiting with
  | some slot => pure { d with given := ← d.given.set slot word, waiting := none }
  | none =>
    match d.scope, Scope.ofWord? word with
    | .top, some scope => pure { d with scope := scope, outer := d.given, given := .nothing }
    | _, _ => d.plain word

/-- An option by its long name, with the value that is attached to it by an equals sign. -/
def Draft.long (d : Draft) (name : String) (attached : Option String) : Except Stop Draft := do
  match d.waiting, d.scope.long? name, attached with
  | none, some (.flag flag), none => pure { d with given := ← d.given.raise flag }
  | none, some (.slot slot), none => pure { d with waiting := some slot }
  | none, some (.slot slot), some word => pure { d with given := ← d.given.set slot word }
  | _, _, _ => throw .misuse

/-- Options by their letters; behind an option with a value the value follows. -/
def Draft.short (d : Draft) : List Char → Except Stop Draft
  | [] => .ok d
  | letter :: letters =>
    match d.scope.short? letter with
    | some (.flag flag) =>
      match d.given.raise flag with
      | .ok given => Draft.short { d with given := given } letters
      | .error stop => .error stop
    | some (.slot slot) =>
      match letters with
      | [] => .ok { d with waiting := some slot }
      | '=' :: word => do pure { d with given := ← d.given.set slot (String.ofList word) }
      | word => do pure { d with given := ← d.given.set slot (String.ofList word) }
    | none => .error .misuse

/-- The next argument. -/
def Draft.read (d : Draft) (arg : String) : Except Stop Draft :=
  if d.scope = .help then d.topic arg
  else if d.ended then
    if d.waiting.isSome then .error .misuse else d.plain arg
  else
    match arg.toList with
    | ['-', '-'] => .ok { d with ended := true }
    | '-' :: '-' :: long =>
      let name := long.takeWhile (· != '=')
      match long.dropWhile (· != '=') with
      | [] => d.long (String.ofList name) none
      | _ :: word => d.long (String.ofList name) (some (String.ofList word))
    | '-' :: letter :: letters =>
      -- before its number, `numeral` takes a dash with digits for a negative number
      if d.scope = .numeral && d.given.number.isNone && looksNumeric (letter :: letters) then
        d.word arg
      else if d.waiting.isSome then .error .misuse
      else d.short (letter :: letters)
    | _ => d.word arg

/-- The command of a command line that has been read to its end. -/
def Draft.command (d : Draft) : Except Stop Command :=
  match d.scope, d.given.number with
  | .encode, _ =>
    if d.given.text.isSome && d.given.file.isSome then .error .misuse
    else .ok (.encode ⟨d.given.text, d.given.file, d.given.mode, d.given.output, d.given.verify⟩)
  | .numeral, some n => .ok (.numeral n)
  | .demonstrate, _ => .ok .demonstrate
  | .version, _ => .ok .version
  | .help, _ => .error .help
  | _, _ => .error .misuse

/-- The end of the command line. What is given behind the command goes before what is given in front
of it. -/
def Draft.finish (d : Draft) : Except Stop CommandLine := do
  if d.waiting.isSome then throw .misuse
  let command ← d.command
  pure ⟨d.outer.verbose || d.given.verbose, d.given.config.or d.outer.config, command⟩

/-- What a list of arguments asks for. -/
def ofArgs (args : List String) : Except Stop CommandLine := do
  (← args.foldlM Draft.read .start).finish

/-- A short account of the command line. -/
def helpLines : List String :=
  ["Usage: pydurf [OPTIONS] <COMMAND>",
    "",
    "Commands:",
    "  encode [TEXT]  Encode text (argument, --file, or stdin)",
    "  numeral <N>    Print the expression for a single integer",
    "  demo           Show sample encodings and what they evaluate to",
    "  version        Show version information",
    "  help           Print this message",
    "",
    "Options:",
    "  -v, --verbose          Enable debug logging",
    "      --config <CONFIG>  Path to the config file",
    "  -h, --help             Print help",
    "  -V, --version          Print version",
    "",
    "Options of encode:",
    "  -f, --file <FILE>      Read the text from a file instead",
    "  -m, --mode <MODE>      Encoder to use: basic or advanced",
    "  -o, --output <OUTPUT>  Write the expression to a file instead of stdout",
    "      --verify           Evaluate the result and fail unless it reproduces the input"]

/-- Reads arguments, and answers those that ask for nothing to be carried out. -/
def read (args : List String) : Except Answer CommandLine :=
  let help := String.join (helpLines.map (· ++ "\n"))
  match ofArgs args with
  | .ok line => .ok line
  | .error .misuse => .error (.misuse help)
  | .error .help => .error (.notice help)
  | .error .version => .error (.notice "pydurf 0.1.0\n")

end CommandLine

end Lipogram
