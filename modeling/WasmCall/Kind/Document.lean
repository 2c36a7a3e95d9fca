import WasmCall.Document.Json
import WasmCall.Kind

/-!
# Kinds in documents

A kind is one of five words.
-/

namespace WasmCall.Kind

open Document

/-- Read a kind. -/
def read (dialect : Dialect) : Document → Except Fault Kind :=
  readWord dialect (all.map fun k => (k.name, k))

/-- Read a kind from JSON. -/
def ofJson (text : String) : Except Fault Kind :=
  Json.read (Kind.read Json.dialect) text

/-- Write a kind as JSON. -/
def toJson (k : Kind) : String :=
  Json.write (.string k.name)

end WasmCall.Kind
