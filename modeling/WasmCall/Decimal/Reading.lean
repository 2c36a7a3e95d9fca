import WasmCall.Decimal.Shortest

/-!
# Reading decimals

Digits are read as naturals and as floats.  A float is the one nearest to the decimal, whatever the
number of its digits; beyond the largest float it is infinity.
-/

namespace WasmCall.Decimal

open Floating

/-- The value of a decimal digit. -/
def digitValue (c : Char) : Nat :=
  c.toNat - '0'.toNat

/-- Digits at the front of a text, and the rest. -/
def takeDigits (cs : List Char) : List Char × List Char :=
  (cs.takeWhile Char.isDigit, cs.dropWhile Char.isDigit)

/-- The value of some digits. -/
def natOfDigits (cs : List Char) : Nat :=
  cs.foldl (fun acc c => 10 * acc + digitValue c) 0

/-- The float nearest to `± digits * 10 ^ exponent`.  Numbers of more than 400 digits before the
point are beyond all floats, and with 400 zeros behind the point they are below all of them, so the
powers of ten stay small. -/
def toFloat (f : Format) (negative : Bool) (digits : List Char) (exponent : Int) : Nat :=
  let significant := digits.dropWhile (· == '0')
  let point : Int := significant.length + exponent
  if significant.isEmpty || point < -400 then f.zero negative
  else if 400 < point then f.withSign negative f.infinity
  else
    let (num, den) := scaleDecimal (natOfDigits significant) exponent
    f.ofRatio negative num den

end WasmCall.Decimal
