import WasmCall.Argument
import WasmCall.CommandLine
import WasmCall.EventFilter
import WasmCall.Host
import WasmCall.Settings.File

/-!
# Following a command line

A run loads the configuration, sets up the engine, compiles and instantiates the module, and then
either lists its functions or calls one of them.  What goes wrong first ends the run with an error.
Nothing is printed before everything which is to be printed is known.
-/

namespace WasmCall

namespace Command

/-- What a run leaves behind: the lines which were printed or the error which ended it, and the events
which passed. -/
structure Report where
  result : Except String (List String)
  json : Bool
  events : List Event

/-- The filter for the log: that of the environment if it is right, else that of the configuration. -/
def filterFor (env : CommandLine.Environment) (s : LogSettings) : EventFilter :=
  match env.logFilter.bind EventFilter.ofText? with
  | some f => f
  | none => .ofText s.filter

/-- The configuration of a run. -/
def configuration (files : FileReader) (line : CommandLine) : Except String Configuration := do
  let c ← match line.config with
    | none => pure .default
    | some path =>
      (Configuration.load files path).mapError fun e =>
        chainText (s!"Failed to load config from {path}" :: e.chain)
  let call := if line.truncate then ⟨.truncate⟩ else c.runtime.call
  let logging := { c.logging with json := c.logging.json || line.jsonLogs }
  return { runtime := { c.runtime with call := call }, logging := logging }

/-- The result of a step of a run and the events up to there. -/
abbrev Progress (α : Type) : Type := Reply Unit (Except String α)

namespace Progress

variable {α β : Type}

/-- Stop with an error. -/
def fail (text : String) : Progress α := .pure (.error text) ()

/-- Cause an event. -/
def emit (e : Event) : Progress Unit := ⟨.ok (), (), [e]⟩

/-- Go on unless there was an error. -/
def andThen (p : Progress α) (next : α → Progress β) : Progress β :=
  match p.result with
  | .error text => ⟨.error text, (), p.events⟩
  | .ok a =>
    let q := next a
    ⟨q.result, (), p.events ++ q.events⟩

instance : Monad Progress where
  pure a := .pure (.ok a) ()
  bind := andThen

/-- A step which may fail, with the text of its error. -/
def ofReply {σ ε : Type} (text : ε → String) (r : Reply σ (Except ε α)) : Progress (α × σ) :=
  ⟨(r.result.mapError text).map (·, r.state), (), r.events⟩

/-- A step which causes nothing. -/
def ofExcept {ε : Type} (text : ε → String) (r : Except ε α) : Progress α :=
  .pure (r.mapError text) ()

end Progress

open Progress

variable (M : Machine)

/-- Set up the engine, compile the module and instantiate it. -/
def prepare (files : FileReader) (settings : Settings) (module : String) :
    Progress (InstanceId × Host M) := do
  let (engine, _) ← ofReply (chainText ·.chain) (Engine.create (M := M) settings.engine)
  emit .engineConfigured
  let (compiled, _) ← ofReply
    (fun e => chainText (s!"Failed to load module {module}" :: e.chain))
    (engine.compileFile files module)
  emit .moduleCompiled
  let made ← ofReply (chainText ·.chain) ((Host.ofEngine engine).instantiate compiled settings)
  emit .instanceReady
  return made

variable {M}

/-- The text of an error of a call.  If the arguments are to blame, the signature is shown. -/
def callText (c : Callable FunctionRef) (e : CallError) : String :=
  if e.isArgumentError then
    chainText [s!"'{c.name}' has signature {c.signature.text}", e.message]
  else e.message

/-- Call a function with arguments given as texts.  There is a line for each result. -/
def callExport (elapsed : Nat) (id : InstanceId) (h : Host M) (name : String)
    (args : List String) : Progress (List String) := do
  let (c, h) ← ofReply CallError.message (h.getFunction id name)
  let values ← ofExcept Argument.Invalid.message (Argument.readAll c.signature.params args)
  emit .callingExport
  let (result, _) ← ofReply (callText c) (h.call elapsed c values)
  emit .callFinished
  return result.toList.map Value.display

/-- List the functions of an instance. -/
def listExports (id : InstanceId) (h : Host M) : Progress (List String) :=
  let r := h.list id
  ⟨.ok r.result, (), r.events⟩

/-- What a run does with the instance: list its functions, or else call the one which is named. -/
def serve (elapsed : Nat) (line : CommandLine) (id : InstanceId) (h : Host M) :
    Progress (List String) :=
  if line.list then listExports id h
  else
    match line.exportName with
    | some name => callExport elapsed id h name line.args
    | none => fail "No export given"

variable (M)

/-- What a run does once the configuration is loaded. -/
def perform (elapsed : Nat) (files : FileReader) (settings : Settings) (line : CommandLine) :
    Progress (List String) := do
  let (id, h) ← prepare M files settings line.module
  serve elapsed line id h

/-- Follow a command line.  If a function is called, this takes some time. -/
def run (elapsed : Nat) (files : FileReader) (env : CommandLine.Environment) (line : CommandLine) :
    Report :=
  match configuration files line with
  | .error text => ⟨.error text, false, []⟩
  | .ok c =>
    let p := perform M elapsed files c.runtime line
    ⟨p.result, c.logging.json, p.events.filter (filterFor env c.logging).passes⟩

/-- What is printed: every line with a line break behind it. -/
def Report.output (r : Report) : String :=
  match r.result with
  | .ok lines => String.join (lines.map (· ++ "\n"))
  | .error _ => ""

/-- The exit code of the program. -/
def Report.exitCode (r : Report) : UInt32 :=
  match r.result with
  | .ok _ => 0
  | .error _ => 1

end Command

end WasmCall
