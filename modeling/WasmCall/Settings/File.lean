import WasmCall.Document.Json
import WasmCall.Document.Toml
import WasmCall.Files
import WasmCall.Settings.Document

/-!
# Settings as texts

A configuration is a file in TOML.  The settings of the machinery alone are also read from JSON, and
both are written as JSON.
-/

namespace WasmCall

/-- Read settings from JSON. -/
def Settings.ofJson (text : String) : Except Fault Settings :=
  Json.read (Settings.read Json.dialect) text

/-- Write settings as JSON. -/
def Settings.toJson (s : Settings) : String :=
  Json.write s.toDocument

/-- Why a configuration cannot be loaded. -/
inductive ConfigurationFault where
  | unreadable (path : String) (cause : FileFault)
  | malformed
  deriving DecidableEq, Inhabited

namespace ConfigurationFault

/-- The text of a fault. -/
def message : ConfigurationFault → String
  | unreadable path cause => s!"Failed to read config file '{path}': {cause.message}"
  | malformed => "Failed to parse config file:"

/-- The texts of a fault and of what caused it. -/
def chain : ConfigurationFault → List String
  | unreadable path cause => [(unreadable path cause).message, cause.message]
  | malformed => [malformed.message]

end ConfigurationFault

namespace Configuration

/-- Read a configuration from a text in TOML. -/
def ofToml (text : String) : Except ConfigurationFault Configuration :=
  (Toml.read (Configuration.read Toml.dialect) text).mapError fun _ => .malformed

/-- Write a configuration as JSON. -/
def toJson (c : Configuration) : String :=
  Json.write c.toDocument

/-- Load a configuration from a file. -/
def load (files : FileReader) (path : String) : Except ConfigurationFault Configuration := do
  let text ← (files.readText path).mapError (.unreadable path)
  ofToml text

end Configuration

end WasmCall
