import WasmCall.Wasm.Types

/-!
# Values of the machine

Integers are words without a sign, floats are bit patterns, and a function reference is the index
of the function.  Nothing makes a reference of the host, so the only one is null.
-/

namespace WasmCall.Wasm

/-- A value. -/
inductive Val where
  | i32 (n : UInt32)
  | i64 (n : UInt64)
  | f32 (bits : UInt32)
  | f64 (bits : UInt64)
  | v128 (low high : UInt64)
  | func (index : Option Nat)
  | external
  deriving DecidableEq, Inhabited

namespace Val

/-- The type of a value. -/
def type : Val → ValType
  | i32 _ => .i32
  | i64 _ => .i64
  | f32 _ => .f32
  | f64 _ => .f64
  | v128 _ _ => .v128
  | func _ => .funcref
  | external => .externref

/-- The value which a local variable of a type has to begin with. -/
def zero : ValType → Val
  | .i32 => i32 0
  | .i64 => i64 0
  | .f32 => f32 0
  | .f64 => f64 0
  | .v128 => v128 0 0
  | .funcref => func none
  | .externref => external

/-- A truth value. -/
def ofBool (b : Bool) : Val :=
  i32 (if b then 1 else 0)

@[simp]
theorem type_zero (t : ValType) : (zero t).type = t := by
  cases t <;> rfl

end Val

/-- The types of some values. -/
def typesOf (vs : List Val) : List ValType :=
  vs.map Val.type

end WasmCall.Wasm
