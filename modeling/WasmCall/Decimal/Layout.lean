import WasmCall.Decimal.Shortest

/-!
# How a float is laid out

There are two texts of a float, and both use the fewest digits which identify it:

* the *plain* text, which results are printed with, never has an exponent and has a point only if
  there are digits behind it;
* the *annotated* text, which diagnostics use, always shows that the number is a float and changes
  to an exponent for very large and very small numbers.

A NaN has no sign in either text, and the sign of zero is kept in both.
-/

namespace WasmCall.Decimal

open Floating

/-- The decisions in which the two texts differ. -/
structure Layout where
  /-- Written behind a whole number. -/
  whole : String
  /-- The scientific exponents for which positional notation is used. -/
  positional : Int → Bool

/-- Results: positional throughout. -/
def Layout.plain : Layout := ⟨"", fun _ => true⟩

/-- Diagnostics: positional from `0.0001` up to, but not including, `10 ^ 16`. -/
def Layout.annotated : Layout := ⟨".0", fun e => decide (-4 ≤ e) && decide (e < 16)⟩

/-- So many zeros. -/
def zeros (n : Nat) : String :=
  String.ofList (List.replicate n '0')

/-- The digits with the point where it belongs, filled up with zeros on either side. -/
def positionalText (whole : String) (digits : List Char) (point : Int) : String :=
  if point ≤ 0 then
    "0." ++ zeros (-point).toNat ++ String.ofList digits
  else if digits.length ≤ point.toNat then
    String.ofList digits ++ zeros (point.toNat - digits.length) ++ whole
  else
    String.ofList (digits.take point.toNat) ++ "." ++ String.ofList (digits.drop point.toNat)

/-- One digit before the point and the exponent behind. -/
def scientificText (digits : List Char) (exponent : Int) : String :=
  let mantissa :=
    match digits with
    | [] => "0"
    | [d] => String.ofList [d]
    | d :: rest => String.ofList [d] ++ "." ++ String.ofList rest
  mantissa ++ "e" ++ toString exponent

/-- A nonzero decimal in a layout. -/
def Layout.decimal (l : Layout) (d : Decimal) : String :=
  let digits := Nat.toDigits 10 d.digits
  if l.positional (d.point - 1) then
    positionalText l.whole digits d.point
  else
    scientificText digits (d.point - 1)

/-- The text of a bit pattern in a layout. -/
def Layout.text (l : Layout) (f : Format) (bits : Nat) : String :=
  let signed (negative : Bool) (s : String) : String := if negative then "-" ++ s else s
  match f.decode bits with
  | .nan _ _ => "NaN"
  | .infinite negative => signed negative "inf"
  | .finite negative significand scale =>
    if significand = 0 then
      signed negative ("0" ++ l.whole)
    else
      signed negative (l.decimal (Shortest.ofMagnitude f (f.magnitude bits) significand scale))

end WasmCall.Decimal
