/-!
# Powers

Powers of the two bases which numbers are written in: two for words and floats, ten for decimals.
-/

namespace WasmCall

/-- The power of two with a given exponent: how many words of so many bits there are. -/
abbrev pow2 (n : Nat) : Nat := Nat.pow 2 n

/-- The power of ten with a given exponent. -/
abbrev pow10 (n : Nat) : Nat := Nat.pow 10 n

end WasmCall
