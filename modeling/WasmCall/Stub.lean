import WasmCall.Exports

/-!
# Stubs

Functions without a machine behind them, which stand in for real ones: they move operands around,
give back what they were made with, or fail.  A state counts how often any of them was run.

`Registry` is a table of such functions in which definitions can be replaced and removed at any
time.
-/

namespace WasmCall

/-- What a stub does with its operands.

* `echo`, `reverse`, `pick`: give back all of them, all of them backwards, or those in given places.
* `constant`: give back other operands.
* `count`: give back how often stubs were run, this time included.
* `sum`: add up the integers among them, modulo `2 ^ 64`.
* `fail`: give back an error. -/
inductive Stub where
  | echo
  | reverse
  | pick (places : List Nat)
  | constant (operands : List Operand)
  | count
  | sum
  | fail (error : CallError)
  deriving Inhabited

namespace Stub

/-- An integer operand as a word; other operands count as zero. -/
def addend : Operand → Int64
  | .i32 n => n.toInt64
  | .i64 n => n
  | .f32 _ | .f64 _ | .ref _ => 0

/-- What a stub gives back in its so many-th run. -/
def answer (runs : Nat) (operands : List Operand) : Stub → Except CallError (List Operand)
  | echo => .ok operands
  | reverse => .ok operands.reverse
  | pick places => .ok (places.filterMap (operands[·]?))
  | constant result => .ok result
  | count => .ok [.i32 (Int32.ofInt runs)]
  | sum => .ok [.i64 (operands.foldl (fun acc r => acc + addend r) 0)]
  | fail e => .error e

/-- Run a stub and count that. -/
def run (stub : Stub) : Invoker Nat :=
  fun operands runs => .pure (stub.answer (runs + 1) operands) (runs + 1)

end Stub

/-- Definitions by name, and how often any name was asked for. -/
structure Registry where
  entries : List (String × Except CallError (Resolved Stub))
  queries : Nat

namespace Registry

/-- The table without definitions. -/
def empty : Registry := ⟨[], 0⟩

instance : Inhabited Registry := ⟨empty⟩

/-- Remove the definition of a name. -/
def undefine (r : Registry) (name : String) : Registry :=
  { r with entries := r.entries.filter (·.1 != name) }

/-- Define a name, whether it was defined before or not. -/
def define (r : Registry) (name : String) (d : Except CallError (Resolved Stub)) : Registry :=
  { r with entries := (r.undefine name).entries ++ [(name, d)] }

/-- Ask for a name and count that. -/
def resolve : Resolver Registry Stub :=
  fun name r =>
    let answer := (r.entries.lookup name).getD (.error (.notFound name))
    .pure answer { r with queries := r.queries + 1 }

/-- The defined names, whatever their definitions are. -/
def names (r : Registry) : List String :=
  r.entries.map Prod.fst

end Registry

end WasmCall
