import WasmCall.Document.Json
import WasmCall.Event

/-!
# Events as lines of a log

An event is a line of text, or a line of JSON for programs to read.
-/

namespace WasmCall.Event

/-- An event as a line of text: level, target, message, and the fields behind it. -/
def textLine (e : Event) : String :=
  let fields := e.fields.map fun f => s!" {f.1}={f.2}"
  s!"{e.level.name} {e.target}: {e.message}" ++ String.join fields

/-- An event as a line of JSON.  The message is one of the fields. -/
def jsonLine (e : Event) : String :=
  let text (name value : String) : Key × Document := (.text name, .string value)
  let fields := text "message" e.message :: e.fields.map fun f => text f.1 f.2
  Json.write (.table [text "level" e.level.name, (.text "fields", .table fields .closed),
    text "target" e.target] .closed)

/-- The line of an event in a log which is in JSON or not. -/
def line (json : Bool) (e : Event) : String :=
  if json then e.jsonLine else e.textLine

end WasmCall.Event
