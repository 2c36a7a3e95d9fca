/-!
# Types of the machine

Value types, function types, kinds of exports, and the limits of memories and tables.  These are
all value types which there are as long as references have no types of their own.
-/

namespace WasmCall.Wasm

/-- A type of values. -/
inductive ValType where
  | i32
  | i64
  | f32
  | f64
  | v128
  | funcref
  | externref
  deriving DecidableEq, Inhabited

namespace ValType

/-- The text of a type.  A reference type is written with all of its parts. -/
def text : ValType → String
  | i32 => "i32"
  | i64 => "i64"
  | f32 => "f32"
  | f64 => "f64"
  | v128 => "v128"
  | funcref => "(ref null func)"
  | externref => "(ref null extern)"

/-- Whether values of the type are references. -/
def isReference : ValType → Bool
  | funcref | externref => true
  | _ => false

end ValType

/-- A type of functions: the types of its parameters and of its results. -/
structure FuncType where
  params : List ValType
  results : List ValType
  deriving DecidableEq, Inhabited

/-- What may be imported or exported. -/
inductive ExternKind where
  | func
  | table
  | memory
  | global
  deriving DecidableEq, Inhabited

/-- A size to begin with, and a bound for it. -/
structure Limits where
  min : Nat
  max : Option Nat
  deriving DecidableEq, Inhabited

/-- The size of a page of memory, in bytes. -/
def pageSize : Nat := 65536

/-- A type of tables. -/
structure TableType where
  limits : Limits
  elem : ValType
  deriving DecidableEq, Inhabited

/-- A type of globals. -/
structure GlobalType where
  type : ValType
  mutable : Bool
  deriving DecidableEq, Inhabited

end WasmCall.Wasm
