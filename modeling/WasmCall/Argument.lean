import WasmCall.Decimal.Reading
import WasmCall.Power
import WasmCall.Text.Quoted
import WasmCall.Value.Basic

/-!
# Arguments as texts

An argument given as a text is read as the kind of its parameter asks for.

* For both integer kinds it is read as an integer of 64 bits, signed if it fits and unsigned
  otherwise.  Whether it fits into the parameter is not decided here.
* For a float kind it is read as a float of that width.
* A reference can only be `null`.
-/

namespace WasmCall

open Floating

/-- Why a text is not an integer of 64 bits. -/
inductive IntegerFault where
  | empty
  | badDigit
  | tooLarge
  deriving DecidableEq, Inhabited

/-- Why a text is not a float. -/
inductive FloatFault where
  | empty
  | malformed
  deriving DecidableEq, Inhabited

/-- Why a text is not an argument for a parameter. -/
inductive ArgumentFault where
  | notInteger (cause : IntegerFault)
  | notFloat (cause : FloatFault)
  | notNull
  deriving DecidableEq, Inhabited

/-- The text of the cause. -/
def IntegerFault.message : IntegerFault → String
  | empty => "cannot parse integer from empty string"
  | badDigit => "invalid digit found in string"
  | tooLarge => "number too large to fit in target type"

/-- The text of the cause. -/
def FloatFault.message : FloatFault → String
  | empty => "cannot parse float from empty string"
  | malformed => "invalid float literal"

/-- The text of a fault, with its cause behind it. -/
def ArgumentFault.message : ArgumentFault → String
  | notInteger cause => "not an integer: " ++ cause.message
  | notFloat cause => "not a float: " ++ cause.message
  | notNull => "only \x60null\x60 can be passed as a reference"

namespace Argument

/-- Read digits, given the value of those before them.  The first character which is not a digit,
or which carries the value to `2 ^ 64`, decides. -/
def readDigits (acc : Nat) : List Char → Except IntegerFault Nat
  | [] => .ok acc
  | c :: cs =>
    if c.isDigit then
      let acc := 10 * acc + Decimal.digitValue c
      if acc < pow2 64 then readDigits acc cs else .error .tooLarge
    else .error .badDigit

/-- Read one or more digits. -/
def readNatural (cs : List Char) : Except IntegerFault Nat :=
  if cs.isEmpty then .error .badDigit else readDigits 0 cs

/-- Read an integer of 64 bits.  A negative number which does not fit is taken for one with a
wrong sign. -/
def readInteger : List Char → Except IntegerFault Value
  | [] => .error .empty
  | '-' :: cs =>
    match readNatural cs with
    | .ok n => if n ≤ pow2 63 then .ok (.i64 (Int64.ofInt (-n))) else .error .badDigit
    | .error _ => .error .badDigit
  | cs => do
    let n ← readNatural (if cs.head? = some '+' then cs.tail else cs)
    return if n < pow2 63 then .i64 (Int64.ofInt n) else .u64 (UInt64.ofNat n)

/-- A sign at the front of a text, and the rest. -/
def takeSign : List Char → Bool × List Char
  | '-' :: cs => (true, cs)
  | '+' :: cs => (false, cs)
  | cs => (false, cs)

/-- The exponent at the end of a number. -/
def readExponent : List Char → Option Int
  | [] => some 0
  | c :: cs =>
    if c = 'e' ∨ c = 'E' then
      let (negative, cs) := takeSign cs
      let (digits, rest) := Decimal.takeDigits cs
      if digits.isEmpty || !rest.isEmpty then none
      else
        let size : Int := Decimal.natOfDigits digits
        some (if negative then -size else size)
    else none

/-- A number without a sign, as its digits and the power of ten they count.  Digits may be missing
on one side of the point, but not on both. -/
def readDecimal (cs : List Char) : Option (List Char × Int) := do
  let (whole, rest) := Decimal.takeDigits cs
  let (fraction, rest) :=
    match rest with
    | '.' :: cs => Decimal.takeDigits cs
    | rest => ([], rest)
  if whole.isEmpty && fraction.isEmpty then none
  else
    let exponent ← readExponent rest
    some (whole ++ fraction, exponent - fraction.length)

/-- Read a float of a format.  Infinities and NaN have names, in letters of either case. -/
def readFloat (f : Format) (cs : List Char) : Except FloatFault Nat :=
  if cs.isEmpty then .error .empty
  else
    let (negative, cs) := takeSign cs
    match readDecimal cs with
    | some (digits, exponent) => .ok (Decimal.toFloat f negative digits exponent)
    | none =>
      let name := String.ofList (cs.map Char.toLower)
      if name = "inf" ∨ name = "infinity" then .ok (f.withSign negative f.infinity)
      else if name = "nan" then .ok (f.withSign negative (f.infinity + f.quietBit))
      else .error .malformed

/-- Read a text as an argument for a parameter of some kind. -/
def read (kind : Kind) (text : String) : Except ArgumentFault Value :=
  let cs := text.toList
  match kind with
  | .i32 | .i64 => (readInteger cs).mapError .notInteger
  | .f32 => ((readFloat binary32 cs).map fun n => .f32 (.ofNat n)).mapError .notFloat
  | .f64 => ((readFloat binary64 cs).map fun n => .f64 (.ofNat n)).mapError .notFloat
  | .ref => if text = "null" then .ok (.ref .null) else .error .notNull

/-- A text which is no argument for its parameter. -/
structure Invalid where
  index : Nat
  text : String
  fault : ArgumentFault
  deriving DecidableEq, Inhabited

/-- The text of an invalid argument. -/
def Invalid.message (e : Invalid) : String :=
  s!"Invalid argument {e.index} (" ++ Text.quoted e.text ++ "): " ++ e.fault.message

/-- Read texts from left to right, the first of them at the given index. -/
def readFrom (index : Nat) : List Kind → List String → Except Invalid (List Value)
  | kind :: kinds, text :: texts => do
    let v ← (read kind text).mapError (⟨index, text, ·⟩)
    let vs ← readFrom (index + 1) kinds texts
    return v :: vs
  | _, _ => .ok []

/-- The arguments given by some texts.  If their number is wrong they are left as they are, so that
the call can say so. -/
def readAll (kinds : List Kind) (texts : List String) : Except Invalid (List Value) :=
  if texts.length = kinds.length then readFrom 0 kinds texts
  else .ok (texts.map .string)

end Argument

end WasmCall
