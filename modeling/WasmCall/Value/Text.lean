import WasmCall.Value.Basic
import WasmCall.Decimal.Layout
import WasmCall.Text.Quoted

/-!
# Texts of values

Every value has two texts.

* `display` is what a result is printed as: numbers in plain decimals, and strings in quotes.
* `debug` names the type in front and uses the annotated text of floats.
-/

namespace WasmCall

open Decimal Floating

namespace Value

/-- The text of a value among results. -/
def display : Value → String
  | i8 n => toString n.toInt
  | u8 n => toString n.toNat
  | i16 n => toString n.toInt
  | u16 n => toString n.toNat
  | i32 n => toString n.toInt
  | u32 n => toString n.toNat
  | i64 n => toString n.toInt
  | u64 n => toString n.toNat
  | isize n => toString n.toInt
  | usize n => toString n.toNat
  | f32 b => Layout.plain.text binary32 b.toNat
  | f64 b => Layout.plain.text binary64 b.toNat
  | ref h => h.display
  | bool b => toString b
  | string s => Text.quoted s

/-- The text of a value in diagnostics. -/
def debug : Value → String
  | i8 n => s!"I8({n.toInt})"
  | u8 n => s!"U8({n.toNat})"
  | i16 n => s!"I16({n.toInt})"
  | u16 n => s!"U16({n.toNat})"
  | i32 n => s!"I32({n.toInt})"
  | u32 n => s!"U32({n.toNat})"
  | i64 n => s!"I64({n.toInt})"
  | u64 n => s!"U64({n.toNat})"
  | isize n => s!"Isize({n.toInt})"
  | usize n => s!"Usize({n.toNat})"
  | f32 b => "F32(" ++ Layout.annotated.text binary32 b.toNat ++ ")"
  | f64 b => "F64(" ++ Layout.annotated.text binary64 b.toNat ++ ")"
  | ref h => "Ref(" ++ h.debug ++ ")"
  | bool b => s!"Bool({b})"
  | string s => "Str(" ++ Text.quoted s ++ ")"

end Value

/-- The text of an operand in diagnostics, which is that of the value it becomes. -/
def Operand.debug (r : Operand) : String :=
  r.toValue.debug

end WasmCall
