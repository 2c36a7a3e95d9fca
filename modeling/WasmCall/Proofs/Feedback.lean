import WasmCall.Proofs.Argument
import WasmCall.Proofs.Decimal.Reading
import WasmCall.Proofs.Display

/-!
# What is printed is read

A result which is printed can be given as an argument.  Its text is read, for its kind, as a value
which is coerced to the operand that it was, whatever the policy and the place are.

* An integer is printed with its sign and read through 64 bits, into which both widths fit
  (`readInteger_toString`).
* A float is printed with digits which identify it (`readFloat_plain`), so all its bits come back.
  Only of a NaN no more than that is printed.
* Of the references only null has a text which is read.
-/

namespace WasmCall

open Decimal Floating

section Integers

/-- An integer of 64 bits is read from its text. -/
theorem Argument.readInteger_toString {z : Int} (hleast : -2 ^ 63 ≤ z) (hmost : z < 2 ^ 63) :
    readInteger (toString z).toList = .ok (.i64 (Int64.ofInt z)) := by
  have hrange : InRange z := ⟨hleast, by omega⟩
  exact readInteger_eq_ok_iff.2 ⟨z, (canonical_iff.2 rfl).denotes, hrange, carries_ofInt hleast hmost⟩

end Integers

section Decimals

variable {digits whole fraction : List Char}

theorem Argument.readDecimal_whole (hwhole : ∀ c ∈ whole, c.isDigit = true) (hne : whole ≠ []) :
    readDecimal whole = some (whole, 0) := by
  simp [readDecimal, takeDigits_self hwhole, readExponent, hne]

theorem Argument.readDecimal_point (hwhole : ∀ c ∈ whole, c.isDigit = true) (hne : whole ≠ [])
    (hfraction : ∀ c ∈ fraction, c.isDigit = true) :
    readDecimal (whole ++ '.' :: fraction) = some (whole ++ fraction, -(fraction.length : Int)) := by
  have hpoint : NoDigit ('.' :: fraction) := by
    intro c hc
    cases hc
    rfl
  have hbefore : takeDigits (whole ++ '.' :: fraction) = (whole, '.' :: fraction) :=
    takeDigits_append hwhole hpoint
  simp [readDecimal, hbefore, takeDigits_self hfraction, readExponent, hne]

/-- A text is read as some digits and a power of ten, and these stand for `n * 10 ^ e`. -/
structure Argument.ReadsDecimal (cs : List Char) (n : Nat) (e : Int) (taken : List Char)
    (power : Int) : Prop where
  read : readDecimal cs = some (taken, power)
  isDigit : ∀ c ∈ taken, c.isDigit = true
  value : scaleDecimal (natOfDigits taken) power = scaleDecimal n e

/-- All digits are behind the point, and zeros in front of them. -/
theorem Argument.readsDecimal_below (hdigits : ∀ c ∈ digits, c.isDigit = true) (count : Nat) :
    ReadsDecimal ("0." ++ zeros count ++ String.ofList digits).toList (natOfDigits digits)
      (-(count : Int) - digits.length) (['0'] ++ (List.replicate count '0' ++ digits))
      (-((List.replicate count '0' ++ digits).length : Int)) := by
  have hzero : ∀ c ∈ ['0'], c.isDigit = true := by simp
  have hfraction : ∀ c ∈ List.replicate count '0' ++ digits, c.isDigit = true := by
    intro c hc
    rcases List.mem_append.1 hc with hc | hc
    · exact isDigit_zeros count c hc
    · exact hdigits c hc
  refine ⟨?_, ?_, ?_⟩
  · have htext : ("0." ++ zeros count ++ String.ofList digits).toList =
        ['0'] ++ '.' :: (List.replicate count '0' ++ digits) := by simp [zeros]
    rw [htext]
    exact readDecimal_point hzero (by decide) hfraction
  · intro c hc
    rcases List.mem_append.1 hc with hc | hc
    · exact hzero c hc
    · exact hfraction c hc
  · have hfirst : natOfDigits ['0'] = 0 := rfl
    have hvalue : natOfDigits (['0'] ++ (List.replicate count '0' ++ digits)) =
        natOfDigits digits := by
      rw [natOfDigits_append, natOfDigits_append, natOfDigits_zeros, hfirst]
      simp
    rw [hvalue, List.length_append, List.length_replicate]
    congr 1
    omega

/-- All digits are before the point, and zeros behind them. -/
theorem Argument.readsDecimal_above (hdigits : ∀ c ∈ digits, c.isDigit = true) (hne : digits ≠ [])
    (count : Nat) :
    ReadsDecimal (String.ofList digits ++ zeros count ++ "").toList (natOfDigits digits) count
      (digits ++ List.replicate count '0') 0 := by
  have hwhole : ∀ c ∈ digits ++ List.replicate count '0', c.isDigit = true := by
    intro c hc
    rcases List.mem_append.1 hc with hc | hc
    · exact hdigits c hc
    · exact isDigit_zeros count c hc
  refine ⟨?_, hwhole, ?_⟩
  · have htext : (String.ofList digits ++ zeros count ++ "").toList =
        digits ++ List.replicate count '0' := by simp [zeros]
    rw [htext]
    exact readDecimal_whole hwhole (by simp [hne])
  · rw [natOfDigits_append, natOfDigits_zeros, List.length_replicate]
    simp [scaleDecimal, Nat.mul_comm]

/-- The point is between two digits. -/
theorem Argument.readsDecimal_between (hdigits : ∀ c ∈ digits, c.isDigit = true) {place : Nat}
    (hpos : place ≠ 0) (hplace : place < digits.length) :
    ReadsDecimal (String.ofList (digits.take place) ++ "." ++ String.ofList (digits.drop place)).toList
      (natOfDigits digits) ((place : Int) - digits.length)
      (digits.take place ++ digits.drop place) (-((digits.drop place).length : Int)) := by
  have hne : digits ≠ [] := by
    rintro rfl
    exact absurd hplace (Nat.not_lt_zero place)
  refine ⟨?_, ?_, ?_⟩
  · have htext : (String.ofList (digits.take place) ++ "." ++
        String.ofList (digits.drop place)).toList =
          digits.take place ++ '.' :: digits.drop place := by simp
    have hbefore : digits.take place ≠ [] := by simp [hne, hpos]
    rw [htext]
    exact readDecimal_point (fun c hc => hdigits c (List.mem_of_mem_take hc)) hbefore
      fun c hc => hdigits c (List.mem_of_mem_drop hc)
  · rw [List.take_append_drop]
    exact hdigits
  · rw [List.take_append_drop, List.length_drop]
    congr 1
    omega

/-- Digits with a point among them are read as the number which they stand for. -/
theorem Argument.exists_readsDecimal (hdigits : ∀ c ∈ digits, c.isDigit = true)
    (hne : digits ≠ []) (point : Int) :
    ∃ taken power, ReadsDecimal (positionalText "" digits point).toList (natOfDigits digits)
      (point - digits.length) taken power := by
  unfold positionalText
  split
  · have hcount : point - digits.length = -((-point).toNat : Int) - digits.length := by omega
    rw [hcount]
    exact ⟨_, _, readsDecimal_below hdigits _⟩
  · split
    · have hcount : point - digits.length = ((point.toNat - digits.length : Nat) : Int) := by omega
      rw [hcount]
      exact ⟨_, _, readsDecimal_above hdigits hne _⟩
    · have hcount : point - digits.length = (point.toNat : Int) - digits.length := by omega
      rw [hcount]
      exact ⟨_, _, readsDecimal_between hdigits (by omega) (by omega)⟩

end Decimals

section Floats

variable {f : Format} {bits : Nat}

/-- A decimal is read behind a sign as without one. -/
theorem Argument.readFloat_of_decimal {cs digits : List Char} {e : Int}
    (hread : readDecimal cs = some (digits, e)) (negative : Bool) :
    readFloat f (sign negative ++ cs) = .ok (toFloat f negative digits e) := by
  -- What is a decimal is not empty and does not begin with a sign of its own.
  have hempty : cs ≠ [] := by
    rintro rfl
    cases hread
  have hunsigned : takeSign cs = (false, cs) := by
    unfold takeSign
    split
    · cases hread
    · cases hread
    · rfl
  have hsign : takeSign (sign negative ++ cs) = (negative, cs) := by
    cases negative with
    | true => rfl
    | false => exact hunsigned
  have hnonempty : (sign negative ++ cs).isEmpty = false := by simp [hempty]
  simp [readFloat, hnonempty, hsign, hread]

theorem Argument.readFloat_inf (f : Format) (negative : Bool) :
    readFloat f (sign negative ++ "inf".toList) = .ok (f.withSign negative f.infinity) := by
  cases negative <;> rfl

/-- The text of zero is read as zero, with its sign. -/
theorem Argument.readFloat_zero (f : Format) (negative : Bool) :
    readFloat f (sign negative ++ "0".toList) = .ok (f.zero negative) := by
  cases negative <;> rfl

/-- The decimal of a float is read as the float. -/
theorem Argument.readFloat_decimal (hf : f.Narrow) {negative : Bool} {d : Decimal}
    (hdigits : d.digits ≠ 0) :
    readFloat f (sign negative ++ (Layout.plain.decimal d).toList) =
      .ok (f.withSign negative (d.read f)) := by
  have htext : Layout.plain.decimal d = positionalText "" (Nat.toDigits 10 d.digits) d.point := rfl
  have hexponent : d.point - (Nat.toDigits 10 d.digits).length = d.exponent := by
    rw [exponent, digitCount, if_neg hdigits]
  obtain ⟨taken, power, hreads⟩ :=
    exists_readsDecimal (isDigit_toDigits d.digits) Nat.toDigits_ne_nil d.point
  rw [← htext, hexponent, natOfDigits_toDigits] at hreads
  rw [readFloat_of_decimal hreads.read, toFloat_eq hf negative hreads.isDigit, hreads.value]
  rfl

/-- Every float but a NaN is read from its text, with all its bits. -/
theorem Argument.readFloat_plain (hf : f.Narrow) (hbits : bits < 2 * f.signBit)
    (hnumber : f.isNaN bits = false) :
    readFloat f (Layout.plain.text f bits).toList = .ok bits := by
  have hparts := Format.withSign_magnitude hbits
  unfold Layout.text
  rcases f.decode_cases bits with ⟨payload, -, hnan⟩ | ⟨hdecode, hinfinite⟩ |
    ⟨significand, scale, hdecode, hfinite⟩
  · rw [hnan] at hnumber
    cases hnumber
  · rw [hdecode]
    simp only [toList_signed]
    rw [readFloat_inf, ← hinfinite, hparts]
  · rw [hdecode]
    simp only
    by_cases hzero : significand = 0
    · subst hzero
      rw [hfinite.magnitude_eq_zero] at hparts
      rw [if_pos rfl, toList_signed]
      exact (readFloat_zero f _).trans (congrArg Except.ok hparts)
    · rw [if_neg hzero, toList_signed,
        readFloat_decimal hf (Shortest.digits_ofMagnitude_ne_zero hf hfinite hzero),
        Shortest.read_ofMagnitude hf hfinite hzero, hparts]

/-- Of a NaN its text says no more than that it is one. -/
theorem Argument.readFloat_plain_nan (hnan : f.isNaN bits = true) :
    readFloat f (Layout.plain.text f bits).toList =
      .ok (f.withSign false (f.infinity + f.quietBit)) := by
  unfold Layout.text
  rcases f.decode_cases bits with ⟨payload, hdecode, -⟩ | ⟨-, hinfinite⟩ |
    ⟨significand, scale, -, hfinite⟩
  · have htext : "NaN".toList = ['N', 'a', 'N'] := rfl
    simp only [hdecode, htext]
    rfl
  · rw [Format.isNaN, hinfinite, decide_eq_true_eq] at hnan
    exact absurd hnan (Nat.lt_irrefl _)
  · rw [hfinite.isNaN_eq_false] at hnan
    cases hnan

end Floats

section Operands

/-- The same operand, or floats of the same width which are both no number. -/
inductive Operand.Resembles : Operand → Operand → Prop
  | same (r : Operand) : Resembles r r
  | nan32 (a b : UInt32) (ha : binary32.isNaN a.toNat = true) (hb : binary32.isNaN b.toNat = true) :
      Resembles (.f32 a) (.f32 b)
  | nan64 (a b : UInt64) (ha : binary64.isNaN a.toNat = true) (hb : binary64.isNaN b.toNat = true) :
      Resembles (.f64 a) (.f64 b)

/-- An operand which has a text of its own.  Only handles have none. -/
def Operand.IsShown : Operand → Prop
  | .ref (.held _ _) => False
  | _ => True

/-- The text of an operand is read as a value, which is coerced under every policy and at every place
to an operand which resembles the first. -/
structure Operand.ReadBack (r : Operand) (v : Value) (r' : Operand) : Prop where
  read : Argument.read r.kind r.toValue.display = .ok v
  coerced : ∀ (policy : OverflowPolicy) (index : Nat), coerce policy index r.kind v = .ok r'
  resembles : r.Resembles r'

/-- What is printed for an integer is an integer of 64 bits. -/
theorem Argument.read_integer {k : Kind} (hk : k.isInteger = true) {z : Int} (hleast : -2 ^ 63 ≤ z)
    (hmost : z < 2 ^ 63) : read k (toString z) = .ok (.i64 (Int64.ofInt z)) := by
  have hread := readInteger_toString hleast hmost
  cases k with
  | i32 =>
      simp only [read, hread]
      rfl
  | i64 =>
      simp only [read, hread]
      rfl
  | _ => cases hk

theorem Operand.readBack_i32 (n : Int32) :
    (Operand.i32 n).ReadBack (.i64 (Int64.ofInt n.toInt)) (.i32 n) := by
  have hleast := n.le_toInt
  have hmost := n.toInt_lt
  refine ⟨Argument.read_integer rfl (by omega) (by omega), ?_, .same _⟩
  have hnumber : (Int64.ofInt n.toInt).toInt = n.toInt :=
    Int64.toInt_ofInt_of_le (by omega) (by omega)
  exact coerce_of_stands rfl (congrArg some hnumber) ⟨hleast, hmost⟩ ⟨rfl, rfl⟩

theorem Operand.readBack_i64 (n : Int64) : (Operand.i64 n).ReadBack (.i64 n) (.i64 n) := by
  have hread := Argument.read_integer (k := .i64) rfl n.le_toInt n.toInt_lt
  rw [Int64.ofInt_toInt] at hread
  exact ⟨hread, fun policy index => coerce_toValue policy index (.i64 n), .same _⟩

theorem Operand.readBack_f32 (a : UInt32) :
    ∃ b, (Operand.f32 a).ReadBack (.f32 b) (.f32 b) := by
  cases hnan : binary32.isNaN a.toNat with
  | false =>
      have hread := Argument.readFloat_plain Format.narrow_binary32 a.toNat_lt hnan
      refine ⟨a, ?_, fun policy index => coerce_toValue policy index (.f32 a), .same _⟩
      simp [Argument.read, kind, toValue, Value.display, hread, Except.map, Except.mapError]
  | true =>
      have hread := Argument.readFloat_plain_nan hnan
      let quiet : UInt32 := .ofNat (binary32.withSign false (binary32.infinity + binary32.quietBit))
      refine ⟨quiet, ?_, fun policy index => coerce_toValue policy index (.f32 quiet), ?_⟩
      · simp only [Argument.read, kind, toValue, Value.display, hread]
        rfl
      · exact .nan32 a quiet hnan (by decide)

theorem Operand.readBack_f64 (a : UInt64) :
    ∃ b, (Operand.f64 a).ReadBack (.f64 b) (.f64 b) := by
  cases hnan : binary64.isNaN a.toNat with
  | false =>
      have hread := Argument.readFloat_plain Format.narrow_binary64 a.toNat_lt hnan
      refine ⟨a, ?_, fun policy index => coerce_toValue policy index (.f64 a), .same _⟩
      simp [Argument.read, kind, toValue, Value.display, hread, Except.map, Except.mapError]
  | true =>
      have hread := Argument.readFloat_plain_nan hnan
      let quiet : UInt64 := .ofNat (binary64.withSign false (binary64.infinity + binary64.quietBit))
      refine ⟨quiet, ?_, fun policy index => coerce_toValue policy index (.f64 quiet), ?_⟩
      · simp only [Argument.read, kind, toValue, Value.display, hread]
        rfl
      · exact .nan64 a quiet hnan (by decide)

/-- What is printed for an operand is read as it. -/
theorem Operand.exists_readBack {r : Operand} (h : r.IsShown) : ∃ v r', r.ReadBack v r' := by
  cases r with
  | i32 n => exact ⟨_, _, readBack_i32 n⟩
  | i64 n => exact ⟨_, _, readBack_i64 n⟩
  | f32 a =>
      obtain ⟨b, hb⟩ := readBack_f32 a
      exact ⟨_, _, hb⟩
  | f64 a =>
      obtain ⟨b, hb⟩ := readBack_f64 a
      exact ⟨_, _, hb⟩
  | ref g =>
      cases g with
      | null => exact ⟨.ref .null, .ref .null, rfl, fun _ _ => rfl, .same _⟩
      | held number payload => exact absurd h id

end Operands

end WasmCall
