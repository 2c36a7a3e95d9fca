import WasmCall.Power
import WasmCall.Text.Hex

/-!
# Digests

Two sources with the same digest are taken for the same module.  The digest is a keyed hash with
the key zero: four words are mixed with every eight bytes of the message once, and three more times
at the end.  The message is the length of the source, as eight bytes, followed by the source.
-/

namespace WasmCall.Digest

/-- The four words which are mixed. -/
structure Lanes where
  a : UInt64
  b : UInt64
  c : UInt64
  d : UInt64
  deriving DecidableEq, Inhabited

/-- The words to begin with, for the key zero. -/
def initial : Lanes :=
  ⟨0x736f6d6570736575, 0x646f72616e646f6d, 0x6c7967656e657261, 0x7465646279746573⟩

/-- Rotation to the left. -/
def rotate (x n : UInt64) : UInt64 :=
  x <<< n ||| x >>> (64 - n)

/-- Mix the words once. -/
def Lanes.mix (v : Lanes) : Lanes :=
  let a := v.a + v.b
  let b := rotate v.b 13 ^^^ a
  let a := rotate a 32
  let c := v.c + v.d
  let d := rotate v.d 16 ^^^ c
  let a := a + d
  let d := rotate d 21 ^^^ a
  let c := c + b
  let b := rotate b 17 ^^^ c
  ⟨a, b, rotate c 32, d⟩

/-- Take in eight bytes of the message. -/
def Lanes.absorb (v : Lanes) (word : UInt64) : Lanes :=
  let v := Lanes.mix { v with d := v.d ^^^ word }
  { v with a := v.a ^^^ word }

/-- The number written by some bytes, the lowest one first. -/
def littleEndian (bytes : List UInt8) : UInt64 :=
  bytes.foldr (fun b acc => acc <<< 8 ||| b.toUInt64) 0

/-- Take in a message from left to right.  What is left of it in the end is less than eight bytes,
which leaves room for the length. -/
def absorbAll (length : Nat) (v : Lanes) : List UInt8 → Lanes
  | a :: b :: c :: d :: e :: f :: g :: h :: rest =>
    absorbAll length (v.absorb (littleEndian [a, b, c, d, e, f, g, h])) rest
  | rest => v.absorb (littleEndian rest ||| UInt64.ofNat length <<< 56)

/-- The hash of a message. -/
def hash (message : List UInt8) : UInt64 :=
  let v := absorbAll message.length initial message
  let v := Lanes.mix (Lanes.mix (Lanes.mix { v with c := v.c ^^^ 0xff }))
  v.a ^^^ v.b ^^^ v.c ^^^ v.d

/-- The bytes of a length. -/
def lengthBytes (n : Nat) : List UInt8 :=
  (List.range 8).map fun i => UInt8.ofNat (n / pow2 (8 * i))

/-- The digest of a source, in hexadecimal digits. -/
def ofBytes (source : List UInt8) : String :=
  Text.hexPadded 16 (hash (lengthBytes source.length ++ source)).toNat

end WasmCall.Digest
