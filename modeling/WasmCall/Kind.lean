/-!
# Kinds

A host passes values of many types and a WebAssembly function takes values of few.  A *kind* is
one of the five types which a function may have in its signature and which a caller can supply:

* the two integer widths,
* the two float widths,
* and function references.

Every other type of the machine has no kind, and a function which uses one cannot be called.
-/

namespace WasmCall

/-- A type which a parameter or a result of a callable function may have. -/
inductive Kind where
  | i32
  | i64
  | f32
  | f64
  | ref
  deriving DecidableEq, Inhabited

namespace Kind

/-- The name of a kind in signatures, error messages and settings. -/
def name : Kind → String
  | i32 => "i32"
  | i64 => "i64"
  | f32 => "f32"
  | f64 => "f64"
  | ref => "ref"

/-- The name of a kind as a constructor, for diagnostics. -/
def label : Kind → String
  | i32 => "I32"
  | i64 => "I64"
  | f32 => "F32"
  | f64 => "F64"
  | ref => "Ref"

/-- All kinds, in the order in which they are declared. -/
def all : List Kind := [i32, i64, f32, f64, ref]

/-- The kind of a given name. -/
def ofName? (s : String) : Option Kind :=
  all.find? fun k => k.name == s

/-- Whether values of the kind are integers. -/
def isInteger : Kind → Bool
  | i32 | i64 => true
  | f32 | f64 | ref => false

/-- Whether values of the kind are floats. -/
def isFloat : Kind → Bool
  | f32 | f64 => true
  | i32 | i64 | ref => false

theorem mem_all (k : Kind) : k ∈ all := by
  cases k <;> decide

theorem name_injective {a b : Kind} (h : a.name = b.name) : a = b := by
  cases a <;> cases b <;> first | rfl | (revert h; decide)

end Kind

end WasmCall
