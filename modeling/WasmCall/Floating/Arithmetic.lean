import WasmCall.Floating.Format
import WasmCall.Power

/-!
# Floating-point arithmetic

Every operation computes the exact result as a quotient of naturals and rounds it once.  What is
not a number follows two rules:

* an operand which is a NaN is the result, made quiet, and the first such operand wins;
* an operation without a result gives the default NaN, whose sign is set.
-/

namespace WasmCall.Floating.Format

variable (f : Format)

/-- The NaN of operations without a result. -/
def defaultNaN : Nat :=
  f.withSign true (f.infinity + f.quietBit)

/-- A NaN, made quiet. -/
def quiet (bits : Nat) : Nat :=
  if bits / f.quietBit % 2 = 1 then bits else bits + f.quietBit

/-- The pattern of `± significand * 2 ^ scale`, rounded once. -/
def ofScaled (negative : Bool) (significand : Nat) (scale : Int) : Nat :=
  let (num, den) := scaleBinary significand scale
  f.ofRatio negative num den

/-- The pattern of an integer.  Zero is positive. -/
def ofInt (n : Int) : Nat :=
  f.ofRatio (n < 0) n.natAbs 1

/-- An operation on two floats which are not NaN. -/
def lift (op : Datum → Datum → Nat) (a b : Nat) : Nat :=
  if f.isNaN a then f.quiet a
  else if f.isNaN b then f.quiet b
  else op (f.decode a) (f.decode b)

/-- A number as an integer multiple of `2 ^ scale`, for a scale which is not above its own. -/
def signedAt (negative : Bool) (significand : Nat) (own scale : Int) : Int :=
  let n : Int := significand * pow2 (own - scale).toNat
  if negative then -n else n

/-- The sum of two numbers.  An exact zero is negative only if both numbers are. -/
def addFinite (s : Bool) (m : Nat) (e : Int) (t : Bool) (n : Nat) (d : Int) : Nat :=
  let scale := min e d
  let sum := signedAt s m e scale + signedAt t n d scale
  if sum = 0 then f.zero (s && t)
  else f.ofScaled (sum < 0) sum.natAbs scale

/-- Addition. -/
def add : Nat → Nat → Nat :=
  f.lift fun
    | .infinite s, .infinite t => if s = t then f.withSign s f.infinity else f.defaultNaN
    | .infinite s, _ => f.withSign s f.infinity
    | _, .infinite t => f.withSign t f.infinity
    | .finite s m e, .finite t n d => f.addFinite s m e t n d
    | _, _ => f.defaultNaN

/-- Multiplication. -/
def mul : Nat → Nat → Nat :=
  f.lift fun
    | .infinite s, .infinite t => f.withSign (s != t) f.infinity
    | .infinite s, .finite t n _ =>
      if n = 0 then f.defaultNaN else f.withSign (s != t) f.infinity
    | .finite s m _, .infinite t =>
      if m = 0 then f.defaultNaN else f.withSign (s != t) f.infinity
    | .finite s m e, .finite t n d => f.ofScaled (s != t) (m * n) (e + d)
    | _, _ => f.defaultNaN

/-- Division. -/
def div : Nat → Nat → Nat :=
  f.lift fun
    | .infinite _, .infinite _ => f.defaultNaN
    | .infinite s, .finite t _ _ => f.withSign (s != t) f.infinity
    | .finite s _ _, .infinite t => f.zero (s != t)
    | .finite s m e, .finite t n d =>
      if n = 0 then
        if m = 0 then f.defaultNaN else f.withSign (s != t) f.infinity
      else
        let (num, den) := scaleBinary m (e - d)
        f.ofRatio (s != t) num (den * n)
    | _, _ => f.defaultNaN

/-- A float of another format.  The payload of a NaN stays at the upper end of its field. -/
def convert (g : Format) (bits : Nat) : Nat :=
  match f.decode bits with
  | .nan negative payload =>
    g.quiet (g.withSign negative (g.infinity + payload * pow2 g.fraction / pow2 f.fraction))
  | .infinite negative => g.withSign negative g.infinity
  | .finite negative significand scale => g.ofScaled negative significand scale

end WasmCall.Floating.Format
