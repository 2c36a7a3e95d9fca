import WasmCall.Floating.Arithmetic
import WasmCall.Power
import WasmCall.Wasm.Trap
import WasmCall.Wasm.Value

/-!
# Numeric instructions

An instruction on numbers takes its operands from the stack and puts one result back.  Everything
about it is in tables: its name, its code in binary modules, its type, and what it computes.

The tables have nineteen entries and are far from complete: there is an `i32.add`, but neither an
`i64.add` nor an `i32.mul`.
-/

namespace WasmCall.Wasm

open Floating

/-- An instruction on numbers. -/
inductive NumOp where
  | i32Eqz
  | i32GtS
  | i32Add
  | i32Sub
  | i32DivS
  | i64LtS
  | i64Sub
  | i64Mul
  | i64RemU
  | f32Mul
  | f64Add
  | f64Div
  | i32WrapI64
  | i32TruncF64S
  | i64ExtendI32S
  | f64ConvertI32S
  | f64ConvertI64S
  | f64PromoteF32
  | i32ReinterpretF32
  deriving DecidableEq, Inhabited

namespace NumOp

/-- All instructions on numbers. -/
def all : List NumOp := [
  i32Eqz, i32GtS, i32Add, i32Sub, i32DivS, i64LtS, i64Sub, i64Mul, i64RemU, f32Mul, f64Add, f64Div,
  i32WrapI64, i32TruncF64S, i64ExtendI32S, f64ConvertI32S, f64ConvertI64S, f64PromoteF32,
  i32ReinterpretF32]

/-- The name of an instruction. -/
def name : NumOp → String
  | i32Eqz => "i32.eqz"
  | i32GtS => "i32.gt_s"
  | i32Add => "i32.add"
  | i32Sub => "i32.sub"
  | i32DivS => "i32.div_s"
  | i64LtS => "i64.lt_s"
  | i64Sub => "i64.sub"
  | i64Mul => "i64.mul"
  | i64RemU => "i64.rem_u"
  | f32Mul => "f32.mul"
  | f64Add => "f64.add"
  | f64Div => "f64.div"
  | i32WrapI64 => "i32.wrap_i64"
  | i32TruncF64S => "i32.trunc_f64_s"
  | i64ExtendI32S => "i64.extend_i32_s"
  | f64ConvertI32S => "f64.convert_i32_s"
  | f64ConvertI64S => "f64.convert_i64_s"
  | f64PromoteF32 => "f64.promote_f32"
  | i32ReinterpretF32 => "i32.reinterpret_f32"

/-- The byte which stands for an instruction in binary modules. -/
def opcode : NumOp → UInt8
  | i32Eqz => 0x45
  | i32GtS => 0x4A
  | i32Add => 0x6A
  | i32Sub => 0x6B
  | i32DivS => 0x6D
  | i64LtS => 0x53
  | i64Sub => 0x7D
  | i64Mul => 0x7E
  | i64RemU => 0x82
  | f32Mul => 0x94
  | f64Add => 0xA0
  | f64Div => 0xA3
  | i32WrapI64 => 0xA7
  | i32TruncF64S => 0xAA
  | i64ExtendI32S => 0xAC
  | f64ConvertI32S => 0xB7
  | f64ConvertI64S => 0xB9
  | f64PromoteF32 => 0xBB
  | i32ReinterpretF32 => 0xBC

/-- The types of the operands. -/
def params : NumOp → List ValType
  | i32Eqz => [.i32]
  | i32GtS | i32Add | i32Sub | i32DivS => [.i32, .i32]
  | i64LtS | i64Sub | i64Mul | i64RemU => [.i64, .i64]
  | f32Mul => [.f32, .f32]
  | f64Add | f64Div => [.f64, .f64]
  | i32WrapI64 | f64ConvertI64S => [.i64]
  | i32TruncF64S => [.f64]
  | i64ExtendI32S | f64ConvertI32S => [.i32]
  | f64PromoteF32 | i32ReinterpretF32 => [.f32]

/-- The type of the result. -/
def result : NumOp → ValType
  | i32Eqz | i32GtS | i32Add | i32Sub | i32DivS | i64LtS => .i32
  | i32WrapI64 | i32TruncF64S | i32ReinterpretF32 => .i32
  | i64Sub | i64Mul | i64RemU | i64ExtendI32S => .i64
  | f32Mul => .f32
  | f64Add | f64Div | f64ConvertI32S | f64ConvertI64S | f64PromoteF32 => .f64

/-- Whether an instruction may stand in a constant expression. -/
def isConstant : NumOp → Bool
  | i32Add | i32Sub | i64Sub | i64Mul => true
  | _ => false

end NumOp

/-- Division of signed words, toward zero.  The quotient of the least number and `-1` is too large. -/
def divSigned (a b : UInt32) : Except Trap UInt32 :=
  if b = 0 then .error .divisionByZero
  else
    let q := a.toInt32.toInt.tdiv b.toInt32.toInt
    if q < pow2 31 then .ok (Int32.ofInt q).toUInt32 else .error .overflow

/-- The integer part of a float of 64 bits, as a signed word. -/
def truncSigned (bits : UInt64) : Except Trap UInt32 :=
  match binary64.decode bits.toNat with
  | .nan _ _ => .error .badConversion
  | .infinite _ => .error .overflow
  | .finite negative significand scale =>
    let (num, den) := scaleBinary significand scale
    let n : Int := num / den
    let n := if negative then -n else n
    if -(pow2 31) ≤ n ∧ n < pow2 31 then .ok (Int32.ofInt n).toUInt32 else .error .overflow

/-- What an instruction computes from its operands, the first of them first.  There is no result
for operands of other types. -/
def NumOp.eval : NumOp → List Val → Option (Except Trap Val)
  | i32Eqz, [.i32 a] => some (.ok (.ofBool (a == 0)))
  | i32GtS, [.i32 a, .i32 b] => some (.ok (.ofBool (decide (b.toInt32 < a.toInt32))))
  | i32Add, [.i32 a, .i32 b] => some (.ok (.i32 (a + b)))
  | i32Sub, [.i32 a, .i32 b] => some (.ok (.i32 (a - b)))
  | i32DivS, [.i32 a, .i32 b] => some ((divSigned a b).map .i32)
  | i64LtS, [.i64 a, .i64 b] => some (.ok (.ofBool (decide (a.toInt64 < b.toInt64))))
  | i64Sub, [.i64 a, .i64 b] => some (.ok (.i64 (a - b)))
  | i64Mul, [.i64 a, .i64 b] => some (.ok (.i64 (a * b)))
  | i64RemU, [.i64 a, .i64 b] =>
    some (if b = 0 then .error .divisionByZero else .ok (.i64 (a % b)))
  | f32Mul, [.f32 a, .f32 b] => some (.ok (.f32 (.ofNat (binary32.mul a.toNat b.toNat))))
  | f64Add, [.f64 a, .f64 b] => some (.ok (.f64 (.ofNat (binary64.add a.toNat b.toNat))))
  | f64Div, [.f64 a, .f64 b] => some (.ok (.f64 (.ofNat (binary64.div a.toNat b.toNat))))
  | i32WrapI64, [.i64 a] => some (.ok (.i32 a.toUInt32))
  | i32TruncF64S, [.f64 a] => some ((truncSigned a).map .i32)
  | i64ExtendI32S, [.i32 a] => some (.ok (.i64 a.toInt32.toInt64.toUInt64))
  | f64ConvertI32S, [.i32 a] => some (.ok (.f64 (.ofNat (binary64.ofInt a.toInt32.toInt))))
  | f64ConvertI64S, [.i64 a] => some (.ok (.f64 (.ofNat (binary64.ofInt a.toInt64.toInt))))
  | f64PromoteF32, [.f32 a] => some (.ok (.f64 (.ofNat (binary32.convert binary64 a.toNat))))
  | i32ReinterpretF32, [.f32 a] => some (.ok (.i32 a))
  | _, _ => none

end WasmCall.Wasm
