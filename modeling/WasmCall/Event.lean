/-!
# Log events

Everything worth knowing that happens is an event.  An event has

* a level, which says how urgent it is,
* a target, which says what part of the program it comes from,
* a message and named fields.

All four follow from what happened, so an `Event` is just that.
-/

namespace WasmCall

/-- How urgent an event is, from the most to the least urgent. -/
inductive Level where
  | error
  | warn
  | info
  | debug
  | trace
  deriving DecidableEq, Inhabited

namespace Level

/-- The name of a level in log lines. -/
def name : Level → String
  | error => "ERROR"
  | warn => "WARN"
  | info => "INFO"
  | debug => "DEBUG"
  | trace => "TRACE"

/-- The place of a level in the order of urgency, counted from one. -/
def rank : Level → Nat
  | error => 1
  | warn => 2
  | info => 3
  | debug => 4
  | trace => 5

end Level

/-- What happened.

* `poolEnabled`, `engineReady`: the engine is being set up, and is set up.
* `textCompiled`, `binaryCompiled`: a module with a digest was compiled from its source.
* `instantiated`: an instance of a module was made.
* `exportResolved`: an exported function was found and its signature is known.
* `callableBuilt`: a function was looked up for the first time.
* `dispatching`: the arguments were accepted and the function is entered.
* `callCompleted`, `fuelExhausted`: how the machine came to an end.
* `callTrapped`: a call failed with a trap.
* The others are the steps of the command line program. -/
inductive Event where
  | poolEnabled (maxInstances memoryMb : Nat)
  | engineReady (metering : Bool)
  | textCompiled (digest : String)
  | binaryCompiled (digest : String)
  | instantiated
  | exportResolved (function signature : String)
  | callableBuilt (function signature : String)
  | dispatching (function : String) (args : Nat)
  | callCompleted (fuel : Nat)
  | fuelExhausted (fuel : Nat)
  | callTrapped (function error : String)
  | engineConfigured
  | moduleCompiled
  | instanceReady
  | callingExport
  | callFinished
  deriving DecidableEq, Inhabited

namespace Event

/-- The level of an event. -/
def level : Event → Level
  | poolEnabled _ _ | engineReady _ | textCompiled _ | binaryCompiled _ | instantiated => .info
  | instanceReady | callFinished => .info
  | exportResolved _ _ | callableBuilt _ _ | callCompleted _ => .debug
  | engineConfigured | moduleCompiled | callingExport => .debug
  | dispatching _ _ => .trace
  | fuelExhausted _ | callTrapped _ _ => .warn

/-- The part of the program which an event comes from. -/
def target : Event → String
  | poolEnabled _ _ | engineReady _ => "wasm_invoke_core::engine"
  | textCompiled _ | binaryCompiled _ => "wasm_invoke_core::module"
  | instantiated | exportResolved _ _ | callCompleted _ | fuelExhausted _ =>
    "wasm_invoke_core::instance"
  | callableBuilt _ _ => "wasm_invoke_core::exports"
  | dispatching _ _ | callTrapped _ _ => "wasm_invoke_core::adapter"
  | engineConfigured | moduleCompiled | instanceReady | callingExport | callFinished =>
    "wasm_invoke"

/-- The message of an event. -/
def message : Event → String
  | poolEnabled _ _ => "Pooling allocator enabled"
  | engineReady _ => "Wasmtime engine initialized"
  | textCompiled _ => "WAT module compiled"
  | binaryCompiled _ => "Core module compiled"
  | instantiated => "Module instantiated"
  | exportResolved _ _ => "Export resolved"
  | callableBuilt _ _ => "Built callable"
  | dispatching _ _ => "Dispatching call"
  | callCompleted _ => "Call completed"
  | fuelExhausted _ => "Execution terminated: fuel exhausted"
  | callTrapped _ _ => "Call trapped"
  | engineConfigured => "Engine configured"
  | moduleCompiled => "Module compiled"
  | instanceReady => "Instance ready"
  | callingExport => "Calling export"
  | callFinished => "Call finished"

/-- The named fields of an event, as texts. -/
def fields : Event → List (String × String)
  | poolEnabled maxInstances memoryMb =>
    [("max_instances", toString maxInstances), ("instance_memory_mb", toString memoryMb)]
  | engineReady metering => [("fuel_metering", toString metering)]
  | textCompiled digest | binaryCompiled digest => [("content_hash", digest)]
  | exportResolved function signature | callableBuilt function signature =>
    [("function", function), ("signature", signature)]
  | dispatching function args => [("function", function), ("args", toString args)]
  | callCompleted fuel | fuelExhausted fuel => [("fuel_consumed", toString fuel)]
  | callTrapped function error => [("function", function), ("error", error)]
  | instantiated | engineConfigured | moduleCompiled | instanceReady | callingExport
  | callFinished => []

end Event

/-- What an operation on a state comes back with: its result, the state it leaves behind, and the
events which it caused, in order. -/
structure Reply (σ α : Type) where
  result : α
  state : σ
  events : List Event

namespace Reply

variable {σ τ α β : Type}

/-- Give back a result and cause nothing. -/
def pure (result : α) (state : σ) : Reply σ α := ⟨result, state, []⟩

/-- Look at the result in another way. -/
def map (f : α → β) (r : Reply σ α) : Reply σ β := ⟨f r.result, r.state, r.events⟩

/-- Look at the state in another way. -/
def mapState (f : σ → τ) (r : Reply σ α) : Reply τ α := ⟨r.result, f r.state, r.events⟩

end Reply

end WasmCall
