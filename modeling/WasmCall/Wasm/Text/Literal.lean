import WasmCall.Decimal.Reading
import WasmCall.Power
import WasmCall.Text.Grouped
import WasmCall.Text.Hex

/-!
# Literals of module texts

Integers may have a sign, underscores between their digits, and a `0x` in front of hexadecimal
ones.  An integer of a width is given with its sign or without, so it may be any number from
`-2 ^ (width - 1)` up to `2 ^ width - 1`.  A float must not be too large for its format.
-/

namespace WasmCall.Wasm.Text

open WasmCall.Text WasmCall.Floating

/-- The value of some hexadecimal digits. -/
def natOfHexDigits (cs : List Char) : Nat :=
  cs.foldl (fun acc c => 16 * acc + (hexDigit? c).getD 0) 0

/-- Whether a character is a hexadecimal digit. -/
def isHexDigit (c : Char) : Bool :=
  (hexDigit? c).isSome

/-- A natural, which is all of the text. -/
def natural? (cs : List Char) : Option Nat :=
  match cs with
  | '0' :: 'x' :: digits => do
    let (digits, rest) ← grouped isHexDigit digits
    if rest.isEmpty then some (natOfHexDigits digits) else none
  | _ => do
    let (digits, rest) ← grouped Char.isDigit cs
    if rest.isEmpty then some (Decimal.natOfDigits digits) else none

/-- A sign at the front of a text, and the rest. -/
def takeSign : List Char → Bool × List Char
  | '-' :: cs => (true, cs)
  | '+' :: cs => (false, cs)
  | cs => (false, cs)

/-- An integer of some width, as a word of that width. -/
def word? (width : Nat) (s : String) : Option Nat := do
  let (negative, cs) := takeSign s.toList
  let n ← natural? cs
  if negative then
    if n ≤ pow2 (width - 1) then some ((pow2 width - n) % pow2 width) else none
  else if n < pow2 width then some n
  else none

/-- An index or a size: a natural of 32 bits without a sign. -/
def index? (s : String) : Option Nat := do
  let n ← natural? s.toList
  if n < pow2 32 then some n else none

/-- The exponent of a float from behind its letter. -/
def exponentValue (cs : List Char) : Option Int := do
  let (negative, cs) := takeSign cs
  let (digits, rest) ← grouped Char.isDigit cs
  let size : Int := Decimal.natOfDigits digits
  if rest.isEmpty then some (if negative then -size else size) else none

/-- The exponent of a float, introduced by a letter of either case, if there is one. -/
def exponent? (letter : Char) : List Char → Option Int
  | [] => some 0
  | c :: cs => if c.toLower = letter then exponentValue cs else none

/-- A mantissa: its digits, how many of them are behind the point, and what follows. -/
def mantissa? (isDigit : Char → Bool) (cs : List Char) :
    Option (List Char × Nat × List Char) := do
  let (whole, rest) ← grouped isDigit cs
  match rest with
  | '.' :: rest =>
    match grouped isDigit rest with
    | some (fraction, rest) => some (whole ++ fraction, fraction.length, rest)
    | none => some (whole, 0, rest)
  | rest => some (whole, 0, rest)

/-- The magnitude of a hexadecimal float.  Beyond an exponent of some thousands a float is infinite
or zero. -/
def hexMagnitude (f : Format) (digits : List Char) (exponent : Int) : Nat :=
  let n := natOfHexDigits digits
  let size := n.log2 + exponent
  if n = 0 ∨ size < -2000 then 0
  else if 2000 < size then f.infinity
  else
    let (num, den) := scaleBinary n exponent
    f.roundMagnitude num den

/-- The magnitude of a float. -/
def magnitude? (f : Format) (cs : List Char) : Option Nat :=
  match cs with
  | ['i', 'n', 'f'] => some f.infinity
  | ['n', 'a', 'n'] => some (f.infinity + f.quietBit)
  | 'n' :: 'a' :: 'n' :: ':' :: '0' :: 'x' :: payload => do
    let (digits, rest) ← grouped isHexDigit payload
    let n := natOfHexDigits digits
    if rest.isEmpty ∧ 0 < n ∧ n < pow2 f.fraction then some (f.infinity + n) else none
  | '0' :: 'x' :: cs => do
    let (digits, places, rest) ← mantissa? isHexDigit cs
    let m := hexMagnitude f digits ((← exponent? 'p' rest) - 4 * places)
    if m = f.infinity then none else some m
  | cs => do
    let (digits, places, rest) ← mantissa? Char.isDigit cs
    let m := Decimal.toFloat f false digits ((← exponent? 'e' rest) - places)
    if m = f.infinity then none else some m

/-- A float. -/
def float? (f : Format) (s : String) : Option Nat := do
  let (negative, cs) := takeSign s.toList
  return f.withSign negative (← magnitude? f cs)

end WasmCall.Wasm.Text
