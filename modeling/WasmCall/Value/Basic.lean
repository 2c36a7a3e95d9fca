import WasmCall.Kind
import WasmCall.Value.Handle
import WasmCall.Floating.Format

/-!
# Host values and operands

There are two types of values.

* A `Value` is what a host program has at hand: integers of ten types, floats of two widths,
  references, booleans and strings.
* An `Operand` is what crosses the boundary of the machine: one of the five kinds.

Every operand is a value of the host (`Operand.toValue`).  The way back may fail and is the
subject of `WasmCall.Coercion`.

Both types have an equality which is not that of Lean: floats are compared as numbers, so a NaN
is not equal to itself and the two zeros are equal, and handles are compared by number.
-/

namespace WasmCall

open Floating

/-- A value of the host.  Floats are bit patterns, and `isize` and `usize` have 64 bits. -/
inductive Value where
  | i8 (n : Int8)
  | u8 (n : UInt8)
  | i16 (n : Int16)
  | u16 (n : UInt16)
  | i32 (n : Int32)
  | u32 (n : UInt32)
  | i64 (n : Int64)
  | u64 (n : UInt64)
  | isize (n : Int64)
  | usize (n : UInt64)
  | f32 (bits : UInt32)
  | f64 (bits : UInt64)
  | ref (handle : Handle)
  | bool (b : Bool)
  | string (s : String)
  deriving Inhabited

/-- A value as it is passed to a function or returned by one. -/
inductive Operand where
  | i32 (n : Int32)
  | i64 (n : Int64)
  | f32 (bits : UInt32)
  | f64 (bits : UInt64)
  | ref (handle : Handle)
  deriving Inhabited

namespace Operand

/-- The kind of an operand. -/
def kind : Operand → Kind
  | i32 _ => .i32
  | i64 _ => .i64
  | f32 _ => .f32
  | f64 _ => .f64
  | ref _ => .ref

/-- An operand as a value of the host, of the type with the same name. -/
def toValue : Operand → Value
  | i32 n => .i32 n
  | i64 n => .i64 n
  | f32 b => .f32 b
  | f64 b => .f64 b
  | ref h => .ref h

/-- Equality of operands: of the same kind, and equal as numbers or as handles. -/
def equal : Operand → Operand → Bool
  | i32 a, i32 b => a == b
  | i64 a, i64 b => a == b
  | f32 a, f32 b => binary32.equal a.toNat b.toNat
  | f64 a, f64 b => binary64.equal a.toNat b.toNat
  | ref a, ref b => a.same b
  | _, _ => false

instance : BEq Operand := ⟨equal⟩

end Operand

namespace Value

/-- The name of the type of a value. -/
def typeName : Value → String
  | i8 _ => "i8"
  | u8 _ => "u8"
  | i16 _ => "i16"
  | u16 _ => "u16"
  | i32 _ => "i32"
  | u32 _ => "u32"
  | i64 _ => "i64"
  | u64 _ => "u64"
  | isize _ => "isize"
  | usize _ => "usize"
  | f32 _ => "f32"
  | f64 _ => "f64"
  | ref _ => "ref"
  | bool _ => "bool"
  | string _ => "string"

/-- The number which an integer of any type stands for. -/
def toInt? : Value → Option Int
  | i8 n => some n.toInt
  | u8 n => some n.toNat
  | i16 n => some n.toInt
  | u16 n => some n.toNat
  | i32 n => some n.toInt
  | u32 n => some n.toNat
  | i64 n => some n.toInt
  | u64 n => some n.toNat
  | isize n => some n.toInt
  | usize n => some n.toNat
  | f32 _ | f64 _ | ref _ | bool _ | string _ => none

/-- The number in a value of type `i32`.  Other integer types are not converted. -/
def asI32? : Value → Option Int32
  | i32 n => some n
  | _ => none

/-- The number in a value of type `i64`.  Other integer types are not converted. -/
def asI64? : Value → Option Int64
  | i64 n => some n
  | _ => none

/-- The bits of a value of type `f32`. -/
def asF32? : Value → Option UInt32
  | f32 b => some b
  | _ => none

/-- The bits of a value of type `f64`. -/
def asF64? : Value → Option UInt64
  | f64 b => some b
  | _ => none

/-- The reference in a value of type `ref`. -/
def asRef? : Value → Option Handle
  | ref h => some h
  | _ => none

/-- Equality of values: of the same type, and equal as numbers, as handles or as texts. -/
def equal : Value → Value → Bool
  | i8 a, i8 b => a == b
  | u8 a, u8 b => a == b
  | i16 a, i16 b => a == b
  | u16 a, u16 b => a == b
  | i32 a, i32 b => a == b
  | u32 a, u32 b => a == b
  | i64 a, i64 b => a == b
  | u64 a, u64 b => a == b
  | isize a, isize b => a == b
  | usize a, usize b => a == b
  | f32 a, f32 b => binary32.equal a.toNat b.toNat
  | f64 a, f64 b => binary64.equal a.toNat b.toNat
  | ref a, ref b => a.same b
  | bool a, bool b => a == b
  | string a, string b => a == b
  | _, _ => false

instance : BEq Value := ⟨equal⟩

end Value

/-- A kind of operand is named like the type of the value it becomes. -/
theorem Operand.typeName_toValue (r : Operand) : r.toValue.typeName = r.kind.name := by
  cases r <;> rfl

/-- Operands are equal exactly when they are equal as values of the host. -/
theorem Operand.equal_toValue (a b : Operand) : a.toValue.equal b.toValue = a.equal b := by
  cases a <;> cases b <;> rfl

end WasmCall
