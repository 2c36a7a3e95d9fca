import WasmCall.Event
import WasmCall.Machine

/-!
# The engine

An engine is set up once and then compiles modules and runs their instances.  It may keep a pool,
which bounds the number of instances and the memory of each of them.
-/

namespace WasmCall

namespace EngineSettings

variable (s : EngineSettings)

/-- The limits of a pool: there is room for one memory and one table of each instance. -/
def poolLimits : Machine.PoolLimits :=
  { instances := s.maxInstances.toNat
    memories := s.maxInstances.toNat
    tables := s.maxInstances.toNat
    memoryBytes := s.instanceMemoryMb.toNat * 1024 * 1024 }

/-- The configuration which the settings stand for. -/
def config : Machine.Config :=
  { consumeFuel := s.fuelMetering
    multiValue := true
    optLevel := s.optLevel
    pool := if s.pooling then some s.poolLimits else none }

end EngineSettings

/-- An engine of the machine, made from settings which are kept. -/
structure Engine (M : Machine) where
  settings : EngineSettings
  inner : M.Engine
  made : M.newEngine settings.config = .ok inner

namespace Engine

variable {M : Machine}

/-- Set up an engine. -/
def create (s : EngineSettings) : Reply Unit (Except Failure (Engine M)) :=
  let pool := if s.pooling then [.poolEnabled s.maxInstances.toNat s.instanceMemoryMb.toNat] else []
  match hmade : M.newEngine s.config with
  | .error e => ⟨.error (.configuration s!"Failed to create Wasmtime engine: {e.text}"), (), pool⟩
  | .ok inner => ⟨.ok ⟨s, inner, hmade⟩, (), pool ++ [.engineReady s.fuelMetering]⟩

variable (e : Engine M)

/-- Whether fuel is metered. -/
def metersFuel : Bool := e.settings.fuelMetering

/-- The fuel which is given to an instance, unless it is not metered. -/
def budget (s : ExecutionSettings) : Option UInt64 :=
  if e.metersFuel then some s.maxFuel else none

/-- A store for an instance.  It starts with the fuel which the start function may use. -/
def createStore (s : ExecutionSettings) : Except Failure M.Store :=
  let store := M.newStore e.inner
  match e.budget s with
  | none => .ok store
  | some n => (M.setFuel n store).mapError fun e => .configuration s!"Failed to set fuel: {e.text}"

/-- An engine in diagnostics. -/
def debug : String :=
  s!"WasmEngine \x7b pooling_allocator: {e.settings.pooling}, " ++
    s!"fuel_metering: {e.settings.fuelMetering}, " ++
    "opt_level: " ++ e.settings.optLevel.label ++ ", .. \x7d"

end Engine

/-- The fuel which was used, given what there was at first and what is left.  Without metering
nothing is left. -/
def fuelUsed (initial : UInt64) (remaining : Option UInt64) : UInt64 :=
  initial - min initial (remaining.getD 0)

end WasmCall
