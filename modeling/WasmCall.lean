import WasmCall.Argument
import WasmCall.Boundary
import WasmCall.Callable
import WasmCall.Coercion
import WasmCall.Command
import WasmCall.CommandLine
import WasmCall.Compilation
import WasmCall.Decimal.Layout
import WasmCall.Decimal.Reading
import WasmCall.Decimal.Shortest
import WasmCall.Digest
import WasmCall.Document.Basic
import WasmCall.Document.Json
import WasmCall.Document.Reading
import WasmCall.Document.Toml
import WasmCall.Document.Toml.Scalar
import WasmCall.Document.Toml.Tables
import WasmCall.Engine
import WasmCall.Error.Basic
import WasmCall.Error.Text
import WasmCall.Event
import WasmCall.EventFilter
import WasmCall.EventLine
import WasmCall.Exports
import WasmCall.Exports.Surfaces
import WasmCall.Files
import WasmCall.Floating.Arithmetic
import WasmCall.Floating.Format
import WasmCall.Host
import WasmCall.Instance
import WasmCall.Kind
import WasmCall.Kind.Document
import WasmCall.Machine
import WasmCall.Main
import WasmCall.Metrics
import WasmCall.Power
import WasmCall.Proofs.Alike
import WasmCall.Proofs.Argument
import WasmCall.Proofs.Argument.Integers
import WasmCall.Proofs.Boundary
import WasmCall.Proofs.Boundary.Extraction
import WasmCall.Proofs.Callable.Chained
import WasmCall.Proofs.Callable.Dispatch
import WasmCall.Proofs.Callable.Phases
import WasmCall.Proofs.Callable.Policies
import WasmCall.Proofs.Coercion
import WasmCall.Proofs.Coercion.Numbers
import WasmCall.Proofs.Command.Answer
import WasmCall.Proofs.Command.Decoding
import WasmCall.Proofs.Command.Entries
import WasmCall.Proofs.Command.Feedback
import WasmCall.Proofs.Command.Listing
import WasmCall.Proofs.Command.Run
import WasmCall.Proofs.Compilation
import WasmCall.Proofs.Decimal.Digits
import WasmCall.Proofs.Decimal.Integers
import WasmCall.Proofs.Decimal.Reading
import WasmCall.Proofs.Decimal.Shortest
import WasmCall.Proofs.Display
import WasmCall.Proofs.Document.Edited
import WasmCall.Proofs.Document.Fields
import WasmCall.Proofs.Document.Json
import WasmCall.Proofs.Exports.Agreement
import WasmCall.Proofs.Exports.Cache
import WasmCall.Proofs.Exports.Faithful
import WasmCall.Proofs.Exports.History
import WasmCall.Proofs.Exports.Names
import WasmCall.Proofs.Exports.Race
import WasmCall.Proofs.Feedback
import WasmCall.Proofs.Floating.Comparison
import WasmCall.Proofs.Floating.Rounding
import WasmCall.Proofs.Host.Accounts
import WasmCall.Proofs.Host.Causes
import WasmCall.Proofs.Host.Handover
import WasmCall.Proofs.Host.Instances
import WasmCall.Proofs.Host.Origin
import WasmCall.Proofs.Host.References
import WasmCall.Proofs.Host.Refusals
import WasmCall.Proofs.Host.Run
import WasmCall.Proofs.Host.Typing
import WasmCall.Proofs.Host.Views
import WasmCall.Proofs.Instance.Charge
import WasmCall.Proofs.Instance.Crowd
import WasmCall.Proofs.Instance.Entry
import WasmCall.Proofs.Instance.Isolation
import WasmCall.Proofs.Instance.Log
import WasmCall.Proofs.Instance.Lookup
import WasmCall.Proofs.Instance.Serial
import WasmCall.Proofs.Metrics
import WasmCall.Proofs.Metrics.Totals
import WasmCall.Proofs.Outline
import WasmCall.Proofs.RoundTrip
import WasmCall.Proofs.Settings.Merge
import WasmCall.Proofs.Signature
import WasmCall.Proofs.Traversal
import WasmCall.Proofs.Value.Equality
import WasmCall.Proofs.Value.Provenance
import WasmCall.Proofs.Wasm.Interpreter
import WasmCall.Settings.Basic
import WasmCall.Settings.Document
import WasmCall.Settings.File
import WasmCall.Signature
import WasmCall.Stub
import WasmCall.Text.Grouped
import WasmCall.Text.Hex
import WasmCall.Text.Printable
import WasmCall.Text.Quoted
import WasmCall.Value.Basic
import WasmCall.Value.Handle
import WasmCall.Value.Text
import WasmCall.Wasm.Binary
import WasmCall.Wasm.Instantiation
import WasmCall.Wasm.Instr
import WasmCall.Wasm.Interpreter
import WasmCall.Wasm.Machine
import WasmCall.Wasm.Module
import WasmCall.Wasm.Numeric
import WasmCall.Wasm.State
import WasmCall.Wasm.Text.Code
import WasmCall.Wasm.Text.Literal
import WasmCall.Wasm.Text.Module
import WasmCall.Wasm.Text.Sexp
import WasmCall.Wasm.Trap
import WasmCall.Wasm.Types
import WasmCall.Wasm.Validation
import WasmCall.Wasm.Value
