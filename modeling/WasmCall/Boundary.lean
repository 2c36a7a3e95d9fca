import WasmCall.Error.Basic
import WasmCall.Signature
import WasmCall.Value.Basic
import WasmCall.Wasm.Value

/-!
# The boundary of the machine

Operands become values of the machine and values become operands.  Numbers pass unchanged, with
all their bits.  A function reference passes as a handle which says which instance it belongs to:

* a value which leaves the machine gets a new handle,
* a handle enters only the machine which it came from.

A function has a signature if the types of all its parameters and results have a kind.
-/

namespace WasmCall.Boundary

open Wasm

/-- The kind of a type of the machine, if it has one. -/
def kindOf : ValType → Option Kind
  | .i32 => some .i32
  | .i64 => some .i64
  | .f32 => some .f32
  | .f64 => some .f64
  | .funcref => some .ref
  | .v128 | .externref => none

/-- The type of the machine for a kind. -/
def typeOf : Kind → ValType
  | .i32 => .i32
  | .i64 => .i64
  | .f32 => .f32
  | .f64 => .f64
  | .ref => .funcref

/-- The kinds of some types.  The first type without one is the reason why the function of that name
cannot be called. -/
def kindsOf (name : String) : List ValType → Except CallError (List Kind)
  | [] => .ok []
  | t :: ts =>
    match kindOf t with
    | some k => do return k :: (← kindsOf name ts)
    | none =>
      .error (.unsupportedSignature name s!"value type {t.text} has no supported kind")

/-- The signature of a function of some type.  Parameters are looked at first. -/
def signatureOf (name : String) (t : FuncType) : Except CallError Signature := do
  let params ← kindsOf name t.params
  let results ← kindsOf name t.results
  return ⟨params, results⟩

/-- What is said of a handle which does not belong to the instance. -/
def foreign (index : Nat) : CallError :=
  .typeMismatch index .ref "foreign reference"

/-- The value for an operand at an index, in the machine of the given instance. -/
def lower (owner : InstanceId) (index : Nat) : Operand → Except CallError Val
  | .i32 n => .ok (.i32 n.toUInt32)
  | .i64 n => .ok (.i64 n.toUInt64)
  | .f32 bits => .ok (.f32 bits)
  | .f64 bits => .ok (.f64 bits)
  | .ref .null => .ok (.func none)
  | .ref (.held _ (.function o f)) =>
    if o = owner then .ok (.func (some f)) else .error (foreign index)
  | .ref (.held _ _) => .error (foreign index)

/-- The values for operands, the first of them at the given index. -/
def lowerFrom (owner : InstanceId) (index : Nat) : List Operand → Except CallError (List Val)
  | [] => .ok []
  | r :: rs => do
    let v ← lower owner index r
    let vs ← lowerFrom owner (index + 1) rs
    return v :: vs

/-- The values for the operands of a call. -/
def lowerAll (owner : InstanceId) (operands : List Operand) : Except CallError (List Val) :=
  lowerFrom owner 0 operands

/-- The operand for a value, from the machine of the given instance. -/
def raise (owner : InstanceId) (supply : HandleSupply) :
    Val → Except CallError Operand × HandleSupply
  | .i32 n => (.ok (.i32 n.toInt32), supply)
  | .i64 n => (.ok (.i64 n.toInt64), supply)
  | .f32 bits => (.ok (.f32 bits), supply)
  | .f64 bits => (.ok (.f64 bits), supply)
  | .func none => (.ok (.ref .null), supply)
  | .func (some f) =>
    let (h, supply) := supply.issue (.function owner f)
    (.ok (.ref h), supply)
  | .v128 _ _ | .external =>
    (.error (.resultMismatch "VM returned a value outside the supported kinds"), supply)

/-- The operands for the results of a call. -/
def raiseAll (owner : InstanceId) (supply : HandleSupply) :
    List Val → Except CallError (List Operand) × HandleSupply
  | [] => (.ok [], supply)
  | v :: vs =>
    match raise owner supply v with
    | (.error e, supply) => (.error e, supply)
    | (.ok r, supply) =>
      match raiseAll owner supply vs with
      | (.error e, supply) => (.error e, supply)
      | (.ok rs, supply) => (.ok (r :: rs), supply)

end WasmCall.Boundary
