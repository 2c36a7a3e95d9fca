import WasmCall.Error.Basic
import WasmCall.Power
import WasmCall.Value.Basic

/-!
# Coercion of arguments

A parameter has a kind, an argument is a value of the host, and coercion turns the second into an
operand of the first.  The rules are the same for every parameter:

* an integer of any type goes to either integer kind by the number it stands for;
* a float goes to the float kind of its own width, and a reference to `ref`;
* booleans and strings go nowhere, whatever the kind;
* everything else is a mismatch.

The only choice is what happens to an integer which does not fit; it is made by the
`OverflowPolicy`.
-/

namespace WasmCall

/-- What happens to an integer which does not fit into its parameter.

* `reject`: the call fails.
* `truncate`: the low bits are kept. -/
inductive OverflowPolicy where
  | reject
  | truncate
  deriving DecidableEq, Inhabited

namespace OverflowPolicy

/-- The name of a policy in settings. -/
def name : OverflowPolicy → String
  | reject => "reject"
  | truncate => "truncate"

/-- The name of a policy in diagnostics. -/
def label : OverflowPolicy → String
  | reject => "Reject"
  | truncate => "Truncate"

/-- All policies. -/
def all : List OverflowPolicy := [reject, truncate]

/-- Integers which do not fit are rejected. -/
def default : OverflowPolicy := reject

end OverflowPolicy

/-- Whether a number is one of the signed integers of `width` bits. -/
def fitsSigned (width : Nat) (n : Int) : Bool :=
  -(pow2 (width - 1) : Int) ≤ n && n < (pow2 (width - 1) : Int)

/-- An integer as an operand of the given width.  Conversion to the machine type keeps the low
bits, so it only remains to reject what does not fit. -/
def coerceInt {α : Type} (width : Nat) (kind : Kind) (ofInt : Int → α) (policy : OverflowPolicy)
    (index : Nat) (n : Int) : Except CallError α :=
  if fitsSigned width n || policy = .truncate then .ok (ofInt n)
  else .error (.argumentOutOfRange index kind (toString n))

/-- Coerce the argument at an index to a kind. -/
def coerce (policy : OverflowPolicy) (index : Nat) (kind : Kind) (value : Value) :
    Except CallError Operand :=
  match value with
  | .bool _ | .string _ => .error (.unsupportedArgumentType index value.typeName)
  | _ =>
    match kind, value, value.toInt? with
    | .i32, _, some n => .i32 <$> coerceInt 32 .i32 Int32.ofInt policy index n
    | .i64, _, some n => .i64 <$> coerceInt 64 .i64 Int64.ofInt policy index n
    | .f32, .f32 bits, _ => .ok (.f32 bits)
    | .f64, .f64 bits, _ => .ok (.f64 bits)
    | .ref, .ref handle, _ => .ok (.ref handle)
    | _, _, _ => .error (.typeMismatch index kind value.typeName)

/-- Coerce arguments from left to right, the first of them at the given index.  The first error
wins, and whatever one of the lists has in excess of the other is left aside. -/
def coerceFrom (policy : OverflowPolicy) (index : Nat) :
    List Kind → List Value → Except CallError (List Operand)
  | kind :: kinds, value :: values => do
    let operand ← coerce policy index kind value
    let operands ← coerceFrom policy (index + 1) kinds values
    return operand :: operands
  | _, _ => .ok []

/-- Coerce a list of arguments to a list of kinds. -/
def coerceAll (policy : OverflowPolicy) (kinds : List Kind) (values : List Value) :
    Except CallError (List Operand) :=
  coerceFrom policy 0 kinds values

end WasmCall
