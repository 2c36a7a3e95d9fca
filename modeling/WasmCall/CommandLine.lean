/-!
# Command lines

A command line consists of a module, the name of an export and arguments for it, with options in
between.  Words are read from left to right.

* Options are recognised up to the first argument; what follows it are arguments, whatever it looks
  like.
* A word `--` ends the options, too, and is left out.
* Once the module and the export are there, a word which looks like an unknown option is an argument.

A word is kept *pending* until the next one is understood, and only then put where it belongs.  So a
wrong word may be noticed after a later one.
-/

namespace WasmCall

/-- What a command line asks for. -/
structure CommandLine where
  module : String
  exportName : Option String
  args : List String
  config : Option String
  list : Bool
  truncate : Bool
  jsonLogs : Bool
  deriving DecidableEq, Inhabited

namespace CommandLine

/-- Why a command line is not followed.

* `help`, `version`: a text was asked for instead.
* `unknown`: there is no such option.
* `repeated`: an option was given twice.
* `surplusValue`: an option which takes no value was given one.
* `invalidValue`: a value is missing, or is empty where it must not be.
* `missing`: there is no module, or neither an export nor the wish for a listing. -/
inductive Fault where
  | help
  | version
  | unknown
  | repeated
  | surplusValue
  | invalidValue
  | missing
  deriving DecidableEq, Inhabited

/-- The name of a fault. -/
def Fault.name : Fault → String
  | help => "DisplayHelp"
  | version => "DisplayVersion"
  | unknown => "UnknownArgument"
  | repeated => "ArgumentConflict"
  | surplusValue => "TooManyValues"
  | invalidValue => "InvalidValue"
  | missing => "MissingRequiredArgument"

/-- A word which was read but not yet put where it belongs.

* `awaited`: the option for the configuration, whose value is awaited.
* `config`, `module`, `exportName`: the words for these. -/
inductive Pending where
  | nothing
  | awaited
  | config (word : String)
  | module (word : String)
  | exportName (word : String)
  deriving DecidableEq, Inhabited

/-- What the next plain word stands for. -/
inductive Slot where
  | module
  | exportName
  | args
  deriving DecidableEq, Inhabited

/-- A command line up to some word. -/
structure Draft where
  module : Option String
  exportName : Option String
  args : List String
  config : Option String
  list : Bool
  truncate : Bool
  jsonLogs : Bool
  pending : Pending
  slot : Slot
  ended : Bool
  deriving DecidableEq, Inhabited

namespace Draft

/-- The command line before its first word. -/
def empty : Draft := ⟨none, none, [], none, false, false, false, .nothing, .module, false⟩

/-- Set the path of the configuration. -/
def setConfig (d : Draft) (word : String) : Except Fault Draft :=
  if d.config.isSome then .error .repeated
  else if word.isEmpty then .error .invalidValue
  else .ok { d with config := some word }

/-- Put the pending word where it belongs. -/
def settle (d : Draft) : Except Fault Draft :=
  let d' := { d with pending := .nothing }
  match d.pending with
  | .nothing => .ok d'
  | .awaited => .error .invalidValue
  | .config word => d'.setConfig word
  | .module word =>
    if word.isEmpty then .error .invalidValue else .ok { d' with module := some word }
  | .exportName word => .ok { d' with exportName := some word }

end Draft

/-- An option. -/
inductive Flag where
  | config
  | list
  | truncate
  | jsonLogs
  | help
  | version
  deriving DecidableEq, Inhabited

namespace Flag

/-- Options by their long names. -/
def ofName? : String → Option Flag
  | "config" => some config
  | "list" => some list
  | "truncate" => some truncate
  | "json-logs" => some jsonLogs
  | "help" => some help
  | "version" => some version
  | _ => none

/-- Options by their letters. -/
def ofLetter? : Char → Option Flag
  | 'c' => some config
  | 'h' => some help
  | 'V' => some version
  | _ => none

end Flag

/-- What a word looks like: a long option with or without a value, letters of options, or neither. -/
inductive Shape where
  | long (name : String) (value : Option String)
  | letters (first : Char) (rest : List Char)
  | plain
  deriving DecidableEq, Inhabited

/-- What a word looks like.  A word of dashes alone is not an option. -/
def shapeOf (word : String) : Shape :=
  match word.toList with
  | ['-', '-'] => .plain
  | '-' :: '-' :: cs =>
    let name := String.ofList (cs.takeWhile (· != '='))
    match cs.dropWhile (· != '=') with
    | _ :: value => .long name (some (String.ofList value))
    | [] => .long name none
  | '-' :: c :: cs => .letters c cs
  | _ => .plain

namespace Draft

/-- Turn an option on which must not be on yet. -/
def turnOn (already : Bool) (d : Draft) : Except Fault Draft :=
  if already then .error .repeated else .ok d

/-- Follow an option, with the value which is attached to it. -/
def follow (d : Draft) (flag : Flag) (value : Option String) : Except Fault Draft := do
  match flag, value with
  | .config, some word => (← d.settle).setConfig word
  | .config, none => return { ← d.settle with pending := .awaited }
  | _, some _ => .error .surplusValue
  | .list, none => do
    let d ← d.settle
    turnOn d.list { d with list := true }
  | .truncate, none => do
    let d ← d.settle
    turnOn d.truncate { d with truncate := true }
  | .jsonLogs, none => do
    let d ← d.settle
    turnOn d.jsonLogs { d with jsonLogs := true }
  | .help, none => do
    let _ ← d.settle
    .error .help
  | .version, none => do
    let _ ← d.settle
    .error .version

/-- The value attached to a letter: the rest of the word, behind an equals sign if there is one. -/
def attached : List Char → Option String
  | [] => none
  | '=' :: cs => some (String.ofList cs)
  | cs => some (String.ofList cs)

/-- Follow the letters of options.  The first one takes the rest of the word if it takes a value, and
asks for a text otherwise. -/
def followLetters (d : Draft) (first : Char) (rest : List Char) : Except Fault Draft :=
  match Flag.ofLetter? first with
  | some .config => d.follow .config (attached rest)
  | some flag => d.follow flag none
  | none => .error .unknown

/-- Take a word as what the next plain word stands for, given the words behind it. -/
def takePlain (d : Draft) (word : String) (rest : List String) :
    Except Fault (Draft × List String) := do
  let d ← d.settle
  match d.slot with
  | .module => return ({ d with pending := .module word, slot := .exportName }, rest)
  | .exportName => return ({ d with pending := .exportName word, slot := .args }, rest)
  | .args => return ({ d with args := word :: rest }, [])

/-- Take a word which is no option: as a value which is awaited, or as a plain word. -/
def takeValue (d : Draft) (word : String) (rest : List String) :
    Except Fault (Draft × List String) :=
  if d.pending = .awaited then .ok ({ d with pending := .config word }, rest)
  else d.takePlain word rest

/-- Read a word, given those behind it.  What is left to read comes back. -/
def read (d : Draft) (word : String) (rest : List String) :
    Except Fault (Draft × List String) :=
  if d.ended then d.takePlain word rest
  else if word = "--" then .ok ({ d with ended := true }, rest)
  else
    match shapeOf word with
    | .plain => d.takeValue word rest
    | .long name value =>
      match Flag.ofName? name with
      | some flag => do return (← d.follow flag value, rest)
      | none => if d.slot = .args then d.takeValue word rest else .error .unknown
    | .letters first more =>
      if d.slot = .args ∧ (first :: more).any (fun c => (Flag.ofLetter? c).isNone) then
        d.takeValue word rest
      else do return (← d.followLetters first more, rest)

/-- Read words one after another.  The fuel is their number. -/
def readAll : Nat → Draft → List String → Except Fault Draft
  | _, d, [] => d.settle
  | 0, d, _ => d.settle
  | fuel + 1, d, word :: rest => do
    let (d, rest) ← d.read word rest
    readAll fuel d rest

end Draft

/-- The variables of the environment which stand in for options. -/
structure Environment where
  config : Option String
  jsonLogs : Option String
  logFilter : Option String
  deriving DecidableEq, Inhabited

namespace Environment

/-- An environment without any variable. -/
def empty : Environment := ⟨none, none, none⟩

/-- Put the variables in the places of options which are missing. -/
def complete (env : Environment) (d : Draft) : Except Fault Draft := do
  let d ← match d.config, env.config with
    | none, some word => d.setConfig word
    | _, _ => pure d
  match d.jsonLogs, env.jsonLogs with
  | false, some "true" => return { d with jsonLogs := true }
  | false, some "false" => return d
  | false, some _ => .error .invalidValue
  | _, _ => return d

end Environment

/-- The command line, if nothing is missing. -/
def Draft.finish (d : Draft) : Except Fault CommandLine :=
  match d.module with
  | none => .error .missing
  | some module =>
    if d.exportName.isNone && !d.list then .error .missing
    else .ok ⟨module, d.exportName, d.args, d.config, d.list, d.truncate, d.jsonLogs⟩

/-- Read a command line. -/
def parse (env : Environment) (words : List String) : Except Fault CommandLine := do
  let d ← Draft.readAll words.length .empty words
  (← env.complete d).finish

/-- The text for those who ask for help. -/
def helpText : String :=
  String.join ([
    "Call WebAssembly exports with dynamically typed arguments",
    "",
    "Usage: wasm-invoke [OPTIONS] <MODULE> [EXPORT] [ARGS]...",
    "",
    "Arguments:",
    "  <MODULE>   Path to a \x60.wasm\x60 binary or \x60.wat\x60 text module",
    "  [EXPORT]   Name of the exported function to call",
    "  [ARGS]...  Arguments, parsed according to the export's parameter kinds",
    "",
    "Options:",
    "  -c, --config <CONFIG>  TOML configuration file [env: WASM_INVOKE_CONFIG=]",
    "      --list             List exported functions and their signatures instead of calling one",
    "      --truncate         Truncate out-of-range integer arguments instead of rejecting them",
    "      --json-logs        Emit logs as JSON lines [env: WASM_INVOKE_JSON_LOGS=]",
    "  -h, --help             Print help",
    "  -V, --version          Print version"].map (· ++ "\n"))

/-- The name and the version of the program. -/
def versionText : String := "wasm-invoke 0.1.0\n"

end CommandLine

end WasmCall
