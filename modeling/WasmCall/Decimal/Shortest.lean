import WasmCall.Floating.Format
import WasmCall.Power

/-!
# The fewest digits which identify a float

A decimal identifies a float if reading it gives that float back.  `Shortest.ofMagnitude` finds
the identifying decimal with the fewest digits and, among those with that many, the one nearest
to the float; of two equally near ones it takes the upper.

The search goes through the decimal grids from coarse to fine.  On each grid only the two
neighbours of the float can be nearest, so only they are tried.  A float is itself a decimal, of
at most `exactDigits` digits, so the search always ends.
-/

namespace WasmCall

/-- The number `0.d₁d₂… * 10 ^ point`, where the digits are those of `digits`, written without
leading zeros. -/
structure Decimal where
  digits : Nat
  point : Int
  deriving DecidableEq, Inhabited

namespace Decimal

open Floating

/-- How many digits a natural has.  Zero has none. -/
def digitCount (n : Nat) : Nat :=
  if n = 0 then 0 else (Nat.toDigits 10 n).length

/-- `n * 10 ^ e`, as a quotient. -/
def scaleDecimal (n : Nat) (e : Int) : Nat × Nat :=
  (n * pow10 e.toNat, pow10 (-e).toNat)

/-- The exponent by which the digits, read as a whole number, have to be scaled. -/
def exponent (d : Decimal) : Int :=
  d.point - digitCount d.digits

/-- The magnitude which a decimal reads as. -/
def read (f : Format) (d : Decimal) : Nat :=
  let (num, den) := scaleDecimal d.digits d.exponent
  f.roundMagnitude num den

/-- The decimal `n * 10 ^ e` without the zeros at its end. -/
def ofScaled (n : Nat) (e : Int) : Decimal :=
  let digits := Nat.toDigits 10 n
  let kept := (digits.reverse.dropWhile (· == '0')).reverse
  ⟨kept.foldl (fun acc c => 10 * acc + (c.toNat - '0'.toNat)) 0, digits.length + e⟩

namespace Shortest

/-- More digits than any float of up to 64 bits has. -/
def exactDigits : Nat := 800

/-- The place of the decimal point of `num / den`: the least `k` with `num / den < 10 ^ k`.  The
logarithms give it up to one, and `0.30103` is the logarithm of two. -/
def pointOf (num den : Nat) : Int :=
  let guess : Int := ((num.log2 : Int) - (den.log2 : Int)) * 30103 / 100000
  let below (k : Int) : Bool := num * pow10 (-k).toNat < den * pow10 k.toNat
  (([guess - 1, guess, guess + 1] : List Int).find? below).getD (guess + 2)

/-- The candidates for `num / den` on the grid of step `10 ^ e`, the nearer one first.  On a tie
the upper one is first. -/
def neighbours (num den : Nat) (e : Int) : List Nat :=
  let scaledNum := num * pow10 (-e).toNat
  let scaledDen := den * pow10 e.toNat
  let floor := scaledNum / scaledDen
  if 2 * (scaledNum % scaledDen) < scaledDen then [floor, floor + 1] else [floor + 1, floor]

/-- The decimal for the magnitude of a positive finite number, whose value is `num / den`. -/
def search (f : Format) (magnitude num den : Nat) (point : Int) : Decimal :=
  let onGrid (n : Nat) : Option Decimal :=
    let e := point - (n + 1 : Nat)
    (neighbours num den e).findSome? fun c =>
      let d := Decimal.ofScaled c e
      if d.read f = magnitude then some d else none
  ((List.range exactDigits).findSome? onGrid).getD ⟨0, 0⟩

/-- The shortest decimal of a positive finite magnitude `significand * 2 ^ scale`. -/
def ofMagnitude (f : Format) (magnitude significand : Nat) (scale : Int) : Decimal :=
  let (num, den) := scaleBinary significand scale
  search f magnitude num den (pointOf num den)

end Shortest

end Decimal

end WasmCall
