import WasmCall.Error.Basic
import WasmCall.Settings.Basic
import WasmCall.Wasm.Value

/-!
# The machine

Modules are compiled and run by a machine.  It is given to this library, which knows of it only what
can be asked of it, so a `Machine` is a collection of operations:

* an engine is made from a configuration, and compiles modules,
* a store is made by an engine, and holds the fuel and all that functions can change,
* a module is linked in a store, and its functions are called there.

Whatever goes wrong in a machine is told by a chain of messages (`Machine.Fault`).

What machines have in common is not built in, but stated at the end: `Refuels`, `Gauges`,
`Overwrites`, `Typed`, `Determined` and `Exporting` are documented of the machine which this library
was made for.  A result which depends on one of them says so.  They are about what a library can come
to, that is about linked modules and their stores at any later time (`Running`).
-/

namespace WasmCall

open Wasm

namespace Machine

/-- What went wrong in a machine: messages from the outermost context to the root cause, and the code
of the trap behind it, if it was one. -/
structure Fault where
  outermost : String
  causes : List String
  code : Option String
  deriving DecidableEq, Inhabited

namespace Fault

variable (e : Fault)

/-- All messages, from the outside in. -/
def chain : List String := e.outermost :: e.causes

/-- The last message. -/
def root : String := e.chain.getLast (List.cons_ne_nil _ _)

/-- The text of a fault by itself, which is that of its context. -/
def text : String := e.outermost

/-- The text of a fault with all of its causes. -/
def fullText : String := chainText e.chain

end Fault

/-- The limits of a pool of instances, the last of them in bytes for each memory. -/
structure PoolLimits where
  instances : Nat
  memories : Nat
  tables : Nat
  memoryBytes : Nat
  deriving DecidableEq, Inhabited

/-- The configuration of an engine. -/
structure Config where
  consumeFuel : Bool
  multiValue : Bool
  optLevel : OptLevel
  pool : Option PoolLimits
  deriving DecidableEq, Inhabited

/-- Something exported: its name, and what it is. -/
structure Extern where
  name : String
  kind : ExternKind
  deriving DecidableEq, Inhabited

/-- What a call comes to: values or what went wrong, and the store behind it. -/
structure Ran (σ : Type) where
  result : Except Fault (List Val)
  store : σ

end Machine

/-- A machine.

* `instantiate`: link a module in a store and run its start function, while so many other instances
  of its engine live.
* `exports`, `func?`, `typeOf`: what a linked module exports, which function it exports under a name,
  and the type of a function.
* `call`: call a function with values and with room for so many results.
* `state`: what a store holds apart from its fuel: globals, memories and tables. -/
structure Machine where
  Engine : Type
  Module : Type
  Store : Type
  Linked : Type
  State : Type
  newEngine : Machine.Config → Except Machine.Fault Engine
  compile : Engine → List UInt8 → Except Machine.Fault Module
  moduleExports : Module → List Machine.Extern
  newStore : Engine → Store
  setFuel : UInt64 → Store → Except Machine.Fault Store
  fuel : Store → Except Machine.Fault UInt64
  instantiate : Nat → Module → Store → Except Machine.Fault (Linked × Store)
  exports : Linked → List Machine.Extern
  func? : Linked → String → Option Nat
  typeOf : Linked → Nat → FuncType
  call : Linked → Nat → List Val → Nat → Store → Machine.Ran Store
  state : Store → State

namespace Machine

variable (M : Machine)

/-- The fuel which is left in a store, unless it is not metered. -/
def fuelLeft (s : M.Store) : Option UInt64 := (M.fuel s).toOption

/-- A store in which nothing is linked yet.  Fuel is metered if its engine is configured so. -/
inductive Fresh : Bool → M.Store → Prop
  | made {c : Config} {e : M.Engine} (hmade : M.newEngine c = .ok e) :
      Fresh c.consumeFuel (M.newStore e)
  | fuelled {metered : Bool} {s s' : M.Store} {n : UInt64} (hs : Fresh metered s)
      (hset : M.setFuel n s = .ok s') : Fresh metered s'

/-- A linked module and its store, at any time after it was linked. -/
inductive Running : Bool → M.Linked → M.Store → Prop
  | linked {metered : Bool} {s s' : M.Store} {live : Nat} {m : M.Module} {l : M.Linked}
      (hs : M.Fresh metered s) (hlinked : M.instantiate live m s = .ok (l, s')) :
      Running metered l s'
  | fuelled {metered : Bool} {l : M.Linked} {s s' : M.Store} {n : UInt64}
      (hs : Running metered l s) (hset : M.setFuel n s = .ok s') : Running metered l s'
  | called {metered : Bool} {l : M.Linked} {s : M.Store} (hs : Running metered l s) (f : Nat)
      (args : List Val) (slots : Nat) : Running metered l (M.call l f args slots s).store

/-- Fuel can be set where it is metered. -/
def Refuels : Prop :=
  ∀ {l : M.Linked} {s : M.Store}, M.Running true l s → ∀ n, ∃ s', M.setFuel n s = .ok s'

/-- The fuel which is left can be told where it is metered. -/
def Gauges : Prop :=
  ∀ {l : M.Linked} {s : M.Store}, M.Running true l s → ∃ n, M.fuel s = .ok n

/-- To set the fuel overwrites what was left of it, and does nothing else. -/
structure Overwrites : Prop where
  fuel : ∀ {l : M.Linked} {s s' : M.Store} {n : UInt64}, M.Running true l s →
    M.setFuel n s = .ok s' → M.fuel s' = .ok n
  state : ∀ {l : M.Linked} {s s' : M.Store} {n : UInt64}, M.Running true l s →
    M.setFuel n s = .ok s' → M.state s' = M.state s

/-- A call of an exported function which returns gives values of the result types of the function. -/
def Typed : Prop :=
  ∀ {metered : Bool} {l : M.Linked} {s : M.Store} {name : String} {f slots : Nat}
    {args results : List Val}, M.Running metered l s → M.func? l name = some f →
    (M.call l f args slots s).result = .ok results → typesOf results = (M.typeOf l f).results

/-- Two stores look alike if they hold the same, and the same fuel if it is metered. -/
def Alike (metered : Bool) (s t : M.Store) : Prop :=
  M.state s = M.state t ∧ (metered = true → M.fuelLeft s = M.fuelLeft t)

/-- What a call comes to depends on the function, its arguments, the room for results, and on what
the store holds, with the fuel which is left. -/
structure Determined : Prop where
  result : ∀ {metered : Bool} {l : M.Linked} {s t : M.Store}, M.Running metered l s →
    M.Running metered l t → M.Alike metered s t → ∀ (f : Nat) (args : List Val) (slots : Nat),
    (M.call l f args slots s).result = (M.call l f args slots t).result
  store : ∀ {metered : Bool} {l : M.Linked} {s t : M.Store}, M.Running metered l s →
    M.Running metered l t → M.Alike metered s t → ∀ (f : Nat) (args : List Val) (slots : Nat),
    M.Alike metered (M.call l f args slots s).store (M.call l f args slots t).store

/-- In a module which was compiled the names of exports are unique.  Once linked, it exports what it
declares, and its functions are found by name. -/
structure Exporting : Prop where
  unique : ∀ {e : M.Engine} {source : List UInt8} {m : M.Module}, M.compile e source = .ok m →
    ((M.moduleExports m).map Extern.name).Nodup
  linked : ∀ {e : M.Engine} {source : List UInt8} {m : M.Module} {live : Nat} {s s' : M.Store}
    {l : M.Linked}, M.compile e source = .ok m → M.instantiate live m s = .ok (l, s') →
    (M.exports l).Perm (M.moduleExports m)
  found : ∀ {e : M.Engine} {source : List UInt8} {m : M.Module} {live : Nat} {s s' : M.Store}
    {l : M.Linked}, M.compile e source = .ok m → M.instantiate live m s = .ok (l, s') →
    ∀ name, (M.func? l name).isSome = true ↔ ⟨name, .func⟩ ∈ M.exports l

end Machine

end WasmCall
