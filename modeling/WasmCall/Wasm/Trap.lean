/-!
# Traps

A trap stops the machine.  Its code names the cause, and its text describes it.
-/

namespace WasmCall.Wasm

/-- Why the machine stopped.

* `unreachable`: the instruction of that name was reached.
* `divisionByZero`, `overflow`, `badConversion`: an operation has no result.
* `memoryBounds`, `tableBounds`: an address or an index is out of bounds.
* `uninitialized`, `badSignature`: a table has no function, or another one, at an index.
* `stackExhausted`, `outOfFuel`: a resource of the machine was used up. -/
inductive Trap where
  | unreachable
  | divisionByZero
  | overflow
  | badConversion
  | memoryBounds
  | tableBounds
  | uninitialized
  | badSignature
  | stackExhausted
  | outOfFuel
  deriving DecidableEq, Inhabited

namespace Trap

/-- The name of the cause. -/
def code : Trap → String
  | unreachable => "UnreachableCodeReached"
  | divisionByZero => "IntegerDivisionByZero"
  | overflow => "IntegerOverflow"
  | badConversion => "BadConversionToInteger"
  | memoryBounds => "MemoryOutOfBounds"
  | tableBounds => "TableOutOfBounds"
  | uninitialized => "IndirectCallToNull"
  | badSignature => "BadSignature"
  | stackExhausted => "StackOverflow"
  | outOfFuel => "OutOfFuel"

/-- The text of the cause. -/
def text : Trap → String
  | unreachable => "wasm \x60unreachable\x60 instruction executed"
  | divisionByZero => "integer divide by zero"
  | overflow => "integer overflow"
  | badConversion => "invalid conversion to integer"
  | memoryBounds => "out of bounds memory access"
  | tableBounds => "undefined element: out of bounds table access"
  | uninitialized => "uninitialized element"
  | badSignature => "indirect call type mismatch"
  | stackExhausted => "call stack exhausted"
  | outOfFuel => "all fuel consumed by WebAssembly"

/-- The text of a trap by itself. -/
def message (t : Trap) : String :=
  "wasm trap: " ++ t.text

theorem code_injective {s t : Trap} (h : s.code = t.code) : s = t := by
  cases s <;> cases t <;> first | rfl | (revert h; decide)

end Trap

end WasmCall.Wasm
