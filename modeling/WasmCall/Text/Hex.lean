/-!
# Hexadecimal digits

Reading and writing of naturals and of bytes with the digits `0` to `f`.  Reading takes both
cases, writing uses the lower one.
-/

namespace WasmCall.Text

/-- The value of a hexadecimal digit of either case. -/
def hexDigit? (c : Char) : Option Nat :=
  if '0' ≤ c ∧ c ≤ '9' then some (c.toNat - '0'.toNat)
  else if 'a' ≤ c ∧ c ≤ 'f' then some (c.toNat - 'a'.toNat + 10)
  else if 'A' ≤ c ∧ c ≤ 'F' then some (c.toNat - 'A'.toNat + 10)
  else none

/-- The natural written by some hexadecimal digits, at least one of them. -/
def readHex (cs : List Char) : Option Nat :=
  if cs.isEmpty then none
  else cs.foldlM (fun acc c => (hexDigit? c).map (16 * acc + ·)) 0

/-- A natural in hexadecimal digits, without padding. -/
def hex (n : Nat) : String :=
  String.ofList (Nat.toDigits 16 n)

/-- A natural in hexadecimal digits, filled up with zeros to a width. -/
def hexPadded (width n : Nat) : String :=
  let digits := Nat.toDigits 16 n
  String.ofList (List.replicate (width - digits.length) '0' ++ digits)

/-- The bytes written by pairs of hexadecimal digits. -/
def readHexBytes : List Char → Option (List UInt8)
  | [] => some []
  | a :: b :: rest => do
    let high ← hexDigit? a
    let low ← hexDigit? b
    let bytes ← readHexBytes rest
    return (16 * high + low).toUInt8 :: bytes
  | [_] => none

end WasmCall.Text
