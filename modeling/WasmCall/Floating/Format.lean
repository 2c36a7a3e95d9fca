import WasmCall.Power

/-!
# Binary floating-point formats

A float is kept as its bit pattern, so that every pattern, quiet or signalling, survives being
moved.  This file reads a pattern as a number and rounds a quotient of naturals to a pattern.

* `Format.decode` splits a pattern into sign, significand and scale.
* `Format.ofRatio` is rounding to nearest, ties to even, with gradual underflow and with
  overflow to infinity.

All arithmetic is on naturals, hence exact.
-/

namespace WasmCall.Floating

/-- A binary interchange format, given by the widths of its two fields below the sign. -/
structure Format where
  fraction : Nat
  exponent : Nat
  deriving DecidableEq, Inhabited

/-- Floats of 32 bits. -/
def binary32 : Format := ⟨23, 8⟩

/-- Floats of 64 bits. -/
def binary64 : Format := ⟨52, 11⟩

/-- A bit pattern, taken apart.  A finite number is `± significand * 2 ^ scale`. -/
inductive Datum where
  | nan (negative : Bool) (payload : Nat)
  | infinite (negative : Bool)
  | finite (negative : Bool) (significand : Nat) (scale : Int)
  deriving DecidableEq, Inhabited

namespace Format

variable (f : Format)

/-- The pattern whose only set bit is the sign. -/
def signBit : Nat := pow2 (f.fraction + f.exponent)

/-- The pattern of positive infinity.  The patterns above it are those of NaN. -/
def infinity : Nat := (pow2 f.exponent - 1) * pow2 f.fraction

/-- The bit which tells a quiet NaN from a signalling one. -/
def quietBit : Nat := pow2 (f.fraction - 1)

/-- The scale of the smallest numbers, which is also that of the smallest normal ones. -/
def minScale : Int := 2 - pow2 (f.exponent - 1) - f.fraction

/-- Whether the sign of a pattern is set. -/
def isNegative (bits : Nat) : Bool :=
  bits / f.signBit % 2 == 1

/-- A pattern without its sign. -/
def magnitude (bits : Nat) : Nat :=
  bits % f.signBit

/-- Whether a pattern is one of a NaN. -/
def isNaN (bits : Nat) : Bool :=
  f.infinity < f.magnitude bits

/-- The pattern of zero with the given sign. -/
def zero (negative : Bool) : Nat :=
  if negative then f.signBit else 0

/-- A pattern made of a sign and a magnitude. -/
def withSign (negative : Bool) (magnitude : Nat) : Nat :=
  f.zero negative + magnitude

/-- Read a pattern.  Below the smallest normal number the leading bit of the significand is
absent and the scale stays where it is. -/
def decode (bits : Nat) : Datum :=
  let negative := f.isNegative bits
  let magnitude := f.magnitude bits
  let field := magnitude / pow2 f.fraction
  let fraction := magnitude % pow2 f.fraction
  if field = pow2 f.exponent - 1 then
    if fraction = 0 then .infinite negative else .nan negative fraction
  else if field = 0 then
    .finite negative fraction f.minScale
  else
    .finite negative (pow2 f.fraction + fraction) (f.minScale + (field - 1 : Nat))

/-- Equality of floats as numbers: a NaN is equal to nothing and the two zeros are equal. -/
def equal (a b : Nat) : Bool :=
  !f.isNaN a && !f.isNaN b && (a == b || (f.magnitude a == 0 && f.magnitude b == 0))

end Format

/-- The integer nearest to `num / den`; a half goes to the even neighbour. -/
def roundHalfEven (num den : Nat) : Nat :=
  let q := num / den
  let twice := 2 * (num % den)
  if twice < den then q
  else if den < twice then q + 1
  else q + q % 2

/-- `n * 2 ^ s`, as a quotient: the power goes to the side on which it is whole. -/
def scaleBinary (n : Nat) (s : Int) : Nat × Nat :=
  (n * pow2 s.toNat, pow2 (-s).toNat)

namespace Format

variable (f : Format)

/-- The scale at which `num / den` has a significand of full width, unless it is below the normal
numbers.  The logarithms determine it up to one. -/
def scaleOf (num den : Nat) : Int :=
  let guess : Int := (num.log2 : Int) - (den.log2 : Int) - f.fraction
  let atGuess := num * pow2 (-guess).toNat / (den * pow2 guess.toNat)
  max f.minScale (if atGuess < pow2 f.fraction then guess - 1 else guess)

/-- The magnitude nearest to `num / den`.  A significand which rounding carries to the next power
of two gives the next exponent by itself, because the two fields are adjacent. -/
def roundMagnitude (num den : Nat) : Nat :=
  if num = 0 then 0
  else
    let scale := f.scaleOf num den
    let significand := roundHalfEven (num * pow2 (-scale).toNat) (den * pow2 scale.toNat)
    min f.infinity ((scale - f.minScale).toNat * pow2 f.fraction + significand)

/-- The pattern of `± num / den`, rounded once. -/
def ofRatio (negative : Bool) (num den : Nat) : Nat :=
  f.withSign negative (f.roundMagnitude num den)

end Format

end WasmCall.Floating
