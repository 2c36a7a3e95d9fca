import WasmCall.Files
import WasmCall.Machine
import WasmCall.Wasm.Binary
import WasmCall.Wasm.Instantiation
import WasmCall.Wasm.Text.Module
import WasmCall.Wasm.Validation

/-!
# The interpreter as a machine

`interpreter` is a machine which reads, checks and runs modules by the definitions of this library.
It knows a fragment of the language only: the instructions which `Instr` lists, and no imports.  A
module outside of it does not compile here, although it does elsewhere.  The program runs on this
machine; what is said about the program is said about any machine.

An engine is nothing but its configuration.  The backtrace of a fault tells the function which was
called from outside, and no other.
-/

namespace WasmCall.Wasm

namespace Interpreter

/-- The most memory which a pool can reserve for a memory, in bytes. -/
def maxPoolMemory : Nat := 4096 * 1024 * 1024

/-- How many elements a table may have to begin with, if it is in a pool. -/
def poolElements : Nat := 20000

/-- A store: the configuration of its engine, the fuel which is left unless it is not metered, and the
state. -/
structure Store where
  config : Machine.Config
  fuel : Option UInt64
  state : State

/-- A fault without a cause of its own. -/
def faultOf (text : String) : Machine.Fault := ⟨text, [], none⟩

/-- The fault of a function which was called and came to a halt. -/
def haltFault (index : Nat) (h : Halt) : Machine.Fault :=
  let context := s!"error while executing at wasm backtrace:\n    0: <wasm function {index}>"
  match h with
  | .trap t => ⟨context, [t.message], some t.code⟩
  | .stuck => ⟨context, ["no rule applies"], none⟩

/-- The fault of a module which cannot be instantiated. -/
def instantiationFault (m : Module) : InstantiationFault → Machine.Fault
  | .unknownImport module name =>
    faultOf s!"unknown import: \x60{module}::{name}\x60 has not been defined"
  | .segment t => ⟨t.message, [], some t.code⟩
  | .start h => haltFault (m.start.getD 0) h

/-- Set up an engine.  A pool must not be too large. -/
def newEngine (c : Machine.Config) : Except Machine.Fault Machine.Config :=
  if c.pool.all (·.memoryBytes ≤ maxPoolMemory) then .ok c
  else .error (faultOf "the pool is too large")

/-- Whether the memory and the table of a module fit into the pool, if there is one. -/
def admits (c : Machine.Config) (m : Module) : Bool :=
  c.pool.all fun pool =>
    m.memories.length ≤ min 1 pool.memories &&
      m.memories.all (·.min * pageSize ≤ pool.memoryBytes) &&
      m.tables.length ≤ min 1 pool.tables && m.tables.all (·.limits.min ≤ poolElements)

/-- Read a module in one of its two forms. -/
def read? (source : List UInt8) : Option Module :=
  if Binary.hasMagic source then Binary.module? source
  else (textOf? source).bind Text.module?

/-- Read a module and check it. -/
def compile (c : Machine.Config) (source : List UInt8) : Except Machine.Fault Module :=
  match (read? source).filter fun m => m.isValid && admits c m with
  | some m => .ok m
  | none => .error (faultOf "the module is not well formed, or not valid")

/-- What a module exports. -/
def exports (m : Module) : List Machine.Extern :=
  m.exports.map fun e => ⟨e.name, e.kind⟩

/-- The index of the exported function of a name. -/
def func? (m : Module) (name : String) : Option Nat :=
  match m.exports.find? (·.name == name) with
  | some e => if e.kind = .func then some e.index else none
  | none => none

/-- The type of a function. -/
def typeOf (m : Module) (index : Nat) : FuncType :=
  m.funcTypes[index]?.getD ⟨[], []⟩

namespace Store

variable (s : Store)

/-- Set the fuel, if it is metered. -/
def setFuel (n : UInt64) : Except Machine.Fault Store :=
  match s.fuel with
  | some _ => .ok { s with fuel := some n }
  | none => .error (faultOf "fuel is not configured in this store")

/-- The fuel which is left, if it is metered. -/
def getFuel : Except Machine.Fault UInt64 :=
  match s.fuel with
  | some n => .ok n
  | none => .error (faultOf "fuel is not configured in this store")

/-- The fuel, as a limit for a run. -/
def limit : Option Nat :=
  s.fuel.map UInt64.toNat

/-- The store behind a run which took so much fuel. -/
def after (spent : Nat) (state : State) : Store :=
  { s with
    fuel := s.fuel.map fun n => n - UInt64.ofNat (min n.toNat spent)
    state := state }

/-- The limit of the pool which another instance would exceed, if there is one. -/
def limitReached? (live : Nat) : Option Nat :=
  (s.config.pool.map Machine.PoolLimits.instances).filter (· ≤ live)

/-- Instantiate a module.  Its imports are looked at before the limit of the pool. -/
def instantiate (live : Nat) (m : Module) : Except Machine.Fault (Module × Store) :=
  match m.unknownImport?, s.limitReached? live with
  | some fault, _ => .error (instantiationFault m fault)
  | none, some n =>
    .error (faultOf s!"maximum concurrent limit of {n} for core instances reached")
  | none, none =>
    match m.instantiate s.limit with
    | .error fault => .error (instantiationFault m fault)
    | .ok started => .ok (m, s.after started.spent started.state)

/-- Call a function. -/
def call (m : Module) (index : Nat) (args : List Val) (slots : Nat) : Machine.Ran Store :=
  let outcome := m.program.call s.limit index slots args s.state
  { result := outcome.result.mapError (haltFault index)
    store := s.after outcome.spent outcome.state }

end Store

end Interpreter

open Interpreter in
/-- The machine which interprets modules. -/
def interpreter : Machine where
  Engine := Machine.Config
  Module := Module
  Store := Interpreter.Store
  Linked := Module
  State := State
  newEngine := newEngine
  compile := compile
  moduleExports := exports
  newStore c := ⟨c, if c.consumeFuel then some 0 else none, .empty⟩
  setFuel n s := s.setFuel n
  fuel := Store.getFuel
  instantiate live m s := s.instantiate live m
  exports := exports
  func? := func?
  typeOf := typeOf
  call m index args slots s := s.call m index args slots
  state := Store.state

end WasmCall.Wasm
