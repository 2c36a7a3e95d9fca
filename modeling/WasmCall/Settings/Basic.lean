import WasmCall.Coercion

/-!
# Settings

What can be set, and what holds if it is not.  `Settings` are those of the machinery, which can
also be given for a single instance; a `Configuration` adds the settings of the log and is what a
file contains.

The defaults of single fields (`Defaults`) serve twice: for the records which a program makes on its
own (`default`), and for what a document leaves out.
-/

namespace WasmCall

/-- What compiled code is optimised for. -/
inductive OptLevel where
  | none
  | speed
  | speedAndSize
  deriving DecidableEq

namespace Defaults

/-- There is no pool. -/
def pooling : Bool := false

/-- The instances for which a pool has room. -/
def maxInstances : UInt32 := 100

/-- The mebibytes which a pool reserves for each. -/
def instanceMemoryMb : UInt32 := 64

/-- Fuel is metered. -/
def fuelMetering : Bool := true

/-- Ten million units of fuel. -/
def maxFuel : UInt64 := 10000000

/-- Warnings from everywhere, and what this program itself has to tell. -/
def filter : String := "warn,wasm_invoke=info"

end Defaults

namespace OptLevel

/-- The name of a level in documents. -/
def name : OptLevel → String
  | none => "none"
  | speed => "speed"
  | speedAndSize => "speed_and_size"

/-- The name of a level in diagnostics. -/
def label : OptLevel → String
  | none => "None"
  | speed => "Speed"
  | speedAndSize => "SpeedAndSize"

/-- All levels. -/
def all : List OptLevel := [none, speed, speedAndSize]

/-- Code is optimised for speed. -/
def default : OptLevel := speed

instance : Inhabited OptLevel := ⟨default⟩

end OptLevel

/-- Settings of the engine, which all instances share.  A pool reserves memory for a number of
instances in advance, `instanceMemoryMb` mebibytes for each. -/
structure EngineSettings where
  pooling : Bool
  maxInstances : UInt32
  instanceMemoryMb : UInt32
  optLevel : OptLevel
  fuelMetering : Bool
  deriving DecidableEq, Inhabited

namespace EngineSettings

/-- The engine's settings if nothing is set. -/
def default : EngineSettings where
  pooling := Defaults.pooling
  maxInstances := Defaults.maxInstances
  instanceMemoryMb := Defaults.instanceMemoryMb
  optLevel := .default
  fuelMetering := Defaults.fuelMetering

end EngineSettings

/-- Settings of the machine: the fuel which every call starts with. -/
structure ExecutionSettings where
  maxFuel : UInt64
  deriving DecidableEq, Inhabited

namespace ExecutionSettings

/-- The machine's settings if nothing is set. -/
def default : ExecutionSettings := ⟨Defaults.maxFuel⟩

end ExecutionSettings

/-- Settings of calls. -/
structure CallSettings where
  overflow : OverflowPolicy
  deriving DecidableEq, Inhabited

namespace CallSettings

/-- The settings of calls if nothing is set. -/
def default : CallSettings := ⟨.default⟩

end CallSettings

/-- Settings of the machinery. -/
structure Settings where
  engine : EngineSettings
  execution : ExecutionSettings
  call : CallSettings
  deriving DecidableEq, Inhabited

namespace Settings

/-- All settings as they are if nothing is set. -/
def default : Settings := ⟨.default, .default, .default⟩

end Settings

/-- Settings of the log: which events are written, and whether as JSON. -/
structure LogSettings where
  filter : String
  json : Bool
  deriving DecidableEq, Inhabited

namespace LogSettings

/-- The settings of the log if nothing is set. -/
def default : LogSettings := ⟨Defaults.filter, false⟩

end LogSettings

/-- The contents of a configuration file. -/
structure Configuration where
  runtime : Settings
  logging : LogSettings
  deriving DecidableEq, Inhabited

namespace Configuration

/-- What an empty file says. -/
def default : Configuration := ⟨.default, .default⟩

end Configuration

end WasmCall
