import WasmCall.Boundary
import WasmCall.Compilation
import WasmCall.Exports
import WasmCall.Metrics

/-!
# Instances

An instance is a module which was linked in a store of its own.  A call of one of its functions goes
through these steps, the middle three of which happen without any other call in between:

* the operands are lowered to values (`Boundary.lowerAll`),
* the fuel is set to the full budget (`refuel`),
* the function is run (`run`),
* the call is recorded (`record`),
* the results are raised to operands (`Boundary.raiseAll`).

Operands which cannot be lowered end the call before anything has changed, and so does fuel which
cannot be set.  How long a run takes is not known here, so it is given to a call as `elapsed`.
-/

namespace WasmCall

/-- A function of an instance, with the room which a call has for its results. -/
structure FunctionRef where
  owner : InstanceId
  index : Nat
  slots : Nat
  deriving DecidableEq, Inhabited

/-- An instance.

* `linked`, `store`: the module in the machine, and its store there.
* `budget`: the fuel which every call starts with, unless fuel is not metered. -/
structure Instance (M : Machine) where
  id : InstanceId
  linked : M.Linked
  store : M.Store
  budget : Option UInt64
  metrics : Metrics
  policy : OverflowPolicy
  cache : Cache FunctionRef

/-- The error for a fault of the machine in a call.  It tells the whole chain. -/
def CallError.ofFault (e : Machine.Fault) : CallError :=
  .trap e.fullText e.code

namespace Instance

variable {M : Machine} (i : Instance M)

/-- The names of the exported functions, in ascending order. -/
def names : List String :=
  Exports.sortedNames
    (((M.exports i.linked).filter (·.kind = .func)).map Machine.Extern.name)

/-- The answer for a name: a function with its signature. -/
def resolved (name : String) : Except CallError (Resolved FunctionRef) :=
  match M.func? i.linked name with
  | none => .error (.notFound name)
  | some index => do
    let signature ← Boundary.signatureOf name (M.typeOf i.linked index)
    return ⟨signature, ⟨i.id, index, signature.results.length⟩⟩

/-- The event for an answer. -/
def resolvedEvents (name : String) : Except CallError (Resolved FunctionRef) → List Event
  | .ok r => [.exportResolved name r.signature.text]
  | .error _ => []

/-- The exports of an instance, as a resolver. -/
def resolve : Resolver (Instance M) FunctionRef :=
  fun name i =>
    let answer := i.resolved name
    ⟨answer, i, resolvedEvents name answer⟩

/-- Look up a function. -/
def getFunction (name : String) :
    Reply (Instance M) (Except CallError (Callable FunctionRef)) :=
  let put (after : Instance M × Cache FunctionRef) : Instance M := { after.1 with cache := after.2 }
  (Exports.getFunction resolve i.policy name i i.cache).mapState put

/-- Set the fuel to the full budget, unless it is not metered. -/
def refuel : Except CallError (Instance M) :=
  match i.budget with
  | none => .ok i
  | some n =>
    match M.setFuel n i.store with
    | .ok store => .ok { i with store := store }
    | .error e => .error (.trap s!"Failed to refuel store: {e.text}" none)

/-- Run a function on the fuel which is left. -/
def run (f : FunctionRef) (args : List Wasm.Val) : Machine.Ran M.Store :=
  M.call i.linked f.index args f.slots i.store

/-- The fuel which was used since the budget was full. -/
def consumed : UInt64 :=
  match i.budget with
  | some n => fuelUsed n (M.fuelLeft i.store)
  | none => 0

/-- Record a call. -/
def record (elapsed : Nat) (trapped : Bool) : Instance M :=
  { i with metrics := i.metrics.record ⟨elapsed, i.consumed, trapped⟩ }

/-- The event which follows a run. -/
def ranEvents (consumed : UInt64) : Except CallError (List Wasm.Val) → List Event
  | .ok _ => [.callCompleted consumed.toNat]
  | .error e => if e.isOutOfFuel then [.fuelExhausted consumed.toNat] else []

/-- Run a function which takes some time, and record it. -/
def enter (elapsed : Nat) (f : FunctionRef) (args : List Wasm.Val) :
    Reply (Instance M) (Except CallError (List Wasm.Val)) :=
  let ran := i.run f args
  let result := ran.result.mapError CallError.ofFault
  let trapped := match result with
    | .ok _ => false
    | .error _ => true
  let i := { i with store := ran.store }.record elapsed trapped
  ⟨result, i, ranEvents i.consumed result⟩

/-- A way to enter a machine: it is refuelled, and a function is called with values, in a state which
both of them may change. -/
structure Entry (σ : Type) where
  refuel : σ → Except CallError σ
  enter : σ → FunctionRef → List Wasm.Val → Reply σ (Except CallError (List Wasm.Val))

/-- The way to enter the machine of an instance, for a call which takes some time. -/
def entry (elapsed : Nat) : Entry (Instance M) :=
  ⟨refuel, fun i => i.enter elapsed⟩

/-- A machine, with the supply of handles for its results. -/
structure Session (σ : Type) where
  machine : σ
  supply : HandleSupply
  deriving Inhabited

/-- Run a function on operands, in the machine of a given instance. -/
def invoke {σ : Type} (entry : Entry σ) (owner : InstanceId) (f : FunctionRef) :
    Invoker (Session σ) :=
  fun operands s =>
    match Boundary.lowerAll owner operands with
    | .error e => .pure (.error e) s
    | .ok args =>
      match entry.refuel s.machine with
      | .error e => .pure (.error e) s
      | .ok full =>
        let ran := entry.enter full f args
        match ran.result with
        | .error e => ⟨.error e, ⟨ran.state, s.supply⟩, ran.events⟩
        | .ok values =>
          let (operands, supply) := Boundary.raiseAll owner s.supply values
          ⟨operands, ⟨ran.state, supply⟩, ran.events⟩

/-- Call a function in the machine of a given instance. -/
def callIn {σ : Type} (entry : Entry σ) (owner : InstanceId) (c : Callable FunctionRef)
    (args : List Value) (s : Session σ) : Reply (Session σ) (Except CallError CallResult) :=
  c.call (invoke entry owner) args s

/-- Call a function of an instance. -/
def call (elapsed : Nat) (c : Callable FunctionRef) (args : List Value)
    (s : Session (Instance M)) : Reply (Session (Instance M)) (Except CallError CallResult) :=
  callIn (entry elapsed) s.machine.id c args s

/-- How long the text of an identity is. -/
def idLength : Nat := 36

/-- An instance in diagnostics, for the text of its identity. -/
def debug (id : String) : String :=
  "Instance \x7b id: \"" ++ id ++ "\", .. \x7d"

end Instance

end WasmCall
