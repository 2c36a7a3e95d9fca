import WasmCall.Document.Reading
import WasmCall.Settings.Basic

/-!
# Settings as documents

Every record of settings is written as a table with all of its fields, in a fixed order, and read
back field by field.  Each field has a default of its own, apart from the default of the record, and
a field which is a record itself has that of this record.  The same fields serve for both formats of
documents.
-/

namespace WasmCall

open Document

/-- A table with given members. -/
def Document.ofMembers (members : List (String × Document)) : Document :=
  .table (members.map fun m => (.text m.1, m.2)) .closed

namespace EngineSettings

/-- The fields of the engine's settings. -/
def fields (dialect : Dialect) : List (Field EngineSettings) := [
  .ofReader "pooling_allocator" Defaults.pooling readBool fun v s => { s with pooling := v },
  .ofReader "max_instances" Defaults.maxInstances readUInt32
    fun v s => { s with maxInstances := v },
  .ofReader "instance_memory_mb" Defaults.instanceMemoryMb readUInt32
    fun v s => { s with instanceMemoryMb := v },
  .ofReader "opt_level" .default (readWord dialect (OptLevel.all.map fun l => (l.name, l)))
    fun v s => { s with optLevel := v },
  .ofReader "fuel_metering" Defaults.fuelMetering readBool
    fun v s => { s with fuelMetering := v }]

/-- Read the engine's settings. -/
def read (dialect : Dialect) : Document → Except Fault EngineSettings :=
  Field.readRecord dialect (fields dialect)

/-- Write the engine's settings. -/
def toDocument (s : EngineSettings) : Document :=
  .ofMembers [
    ("pooling_allocator", .bool s.pooling),
    ("max_instances", .integer s.maxInstances.toNat),
    ("instance_memory_mb", .integer s.instanceMemoryMb.toNat),
    ("opt_level", .string s.optLevel.name),
    ("fuel_metering", .bool s.fuelMetering)]

end EngineSettings

namespace ExecutionSettings

/-- The fields of the machine's settings. -/
def fields : List (Field ExecutionSettings) := [
  .ofReader "max_fuel" Defaults.maxFuel readUInt64 fun v s => { s with maxFuel := v }]

/-- Read the machine's settings. -/
def read (dialect : Dialect) : Document → Except Fault ExecutionSettings :=
  Field.readRecord dialect fields

/-- Write the machine's settings. -/
def toDocument (s : ExecutionSettings) : Document :=
  .ofMembers [("max_fuel", .integer s.maxFuel.toNat)]

end ExecutionSettings

namespace CallSettings

/-- The fields of the settings of calls. -/
def fields (dialect : Dialect) : List (Field CallSettings) := [
  .ofReader "overflow" .default (readWord dialect (OverflowPolicy.all.map fun p => (p.name, p)))
    fun v s => { s with overflow := v }]

/-- Read the settings of calls. -/
def read (dialect : Dialect) : Document → Except Fault CallSettings :=
  Field.readRecord dialect (fields dialect)

/-- Write the settings of calls. -/
def toDocument (s : CallSettings) : Document :=
  .ofMembers [("overflow", .string s.overflow.name)]

end CallSettings

namespace Settings

/-- The fields of the settings of the machinery. -/
def fields (dialect : Dialect) : List (Field Settings) := [
  .ofReader "engine" .default (EngineSettings.read dialect) fun v s => { s with engine := v },
  .ofReader "execution" .default (ExecutionSettings.read dialect)
    fun v s => { s with execution := v },
  .ofReader "call" .default (CallSettings.read dialect) fun v s => { s with call := v }]

/-- Read the settings of the machinery. -/
def read (dialect : Dialect) : Document → Except Fault Settings :=
  Field.readRecord dialect (fields dialect)

/-- Write the settings of the machinery. -/
def toDocument (s : Settings) : Document :=
  .ofMembers [
    ("engine", s.engine.toDocument),
    ("execution", s.execution.toDocument),
    ("call", s.call.toDocument)]

end Settings

namespace LogSettings

/-- The fields of the settings of the log. -/
def fields : List (Field LogSettings) := [
  .ofReader "filter" Defaults.filter readString fun v s => { s with filter := v },
  .ofReader "json" false readBool fun v s => { s with json := v }]

/-- Read the settings of the log. -/
def read (dialect : Dialect) : Document → Except Fault LogSettings :=
  Field.readRecord dialect fields

/-- Write the settings of the log. -/
def toDocument (s : LogSettings) : Document :=
  .ofMembers [("filter", .string s.filter), ("json", .bool s.json)]

end LogSettings

namespace Configuration

/-- The fields of a configuration. -/
def fields (dialect : Dialect) : List (Field Configuration) := [
  .ofReader "runtime" .default (Settings.read dialect) fun v s => { s with runtime := v },
  .ofReader "logging" .default (LogSettings.read dialect) fun v s => { s with logging := v }]

/-- Read a configuration. -/
def read (dialect : Dialect) : Document → Except Fault Configuration :=
  Field.readRecord dialect (fields dialect)

/-- Write a configuration. -/
def toDocument (c : Configuration) : Document :=
  .ofMembers [("runtime", c.runtime.toDocument), ("logging", c.logging.toDocument)]

end Configuration

end WasmCall
