import Mathlib.Data.Int.Log
import Mathlib.Data.Rat.Floor
import WasmCall.Floating.Format

/-!
# What rounding to a float does

Rounding takes a quotient of naturals, but only the number which the quotient stands for matters.
Every statement is therefore about that number, as a rational.

* `scaleOf_eq`: the scale is the binary logarithm of the number, as far as the fraction is wide,
  unless that is below the least scale of the format.
* `Finite.roundMagnitude_eq`: a number which is a float rounds to itself.
* `roundMagnitude_of_lt`, `roundMagnitude_of_le`: a number below half of the least float rounds to
  zero, and one above all floats to infinity.
-/

namespace WasmCall.Floating

section Quotients

/-- A power with an integer exponent, as a quotient of powers of which one is `1`. -/
theorem pow_toNat_div_pow_toNat {b : Rat} (hb : b ≠ 0) (s : Int) :
    b ^ s.toNat / b ^ (-s).toNat = b ^ s := by
  have hsplit : s = (s.toNat : Int) - ((-s).toNat : Int) := by omega
  calc
    b ^ s.toNat / b ^ (-s).toNat = b ^ ((s.toNat : Int) - ((-s).toNat : Int)) := by
      rw [zpow_sub₀ hb, zpow_natCast, zpow_natCast]
    _ = b ^ s := by rw [← hsplit]

/-- The value of a number which is scaled by a power, on the side on which the power is whole. -/
theorem scaled_eq {b : Nat} (hb : b ≠ 0) (num den : Nat) (s : Int) :
    ((num * Nat.pow b (-s).toNat : Nat) : Rat) / (den * Nat.pow b s.toNat : Nat) =
      num / den * (b : Rat) ^ (-s) := by
  have hb' : (b : Rat) ≠ 0 := Nat.cast_ne_zero.2 hb
  have hpower := pow_toNat_div_pow_toNat hb' (-s)
  rw [neg_neg] at hpower
  rw [← hpower, Nat.pow_eq, Nat.pow_eq]
  push_cast
  rw [mul_div_mul_comm]

theorem value_scaleBinary (n : Nat) (s : Int) :
    ((scaleBinary n s).1 : Rat) / (scaleBinary n s).2 = n * 2 ^ s := by
  have hpower := pow_toNat_div_pow_toNat (b := 2) (by norm_num) s
  rw [scaleBinary, pow2, pow2, Nat.pow_eq, Nat.pow_eq]
  push_cast
  rw [mul_div_assoc, hpower]

/-- The integer part of a quotient is below a bound if the quotient is. -/
theorem div_lt_iff_quotient_lt {n d b : Nat} (hd : d ≠ 0) :
    n / d < b ↔ (n : Rat) / d < b := by
  have hd' : (0 : Rat) < d := Nat.cast_pos.2 (Nat.pos_of_ne_zero hd)
  rw [Nat.div_lt_iff_lt_mul (Nat.pos_of_ne_zero hd), div_lt_iff₀ hd']
  exact_mod_cast Iff.rfl

/-- Only zero is a quotient of zero. -/
theorem num_ne_zero_of_pos {num den : Nat} (h : (0 : Rat) < num / den) : num ≠ 0 := by
  rintro rfl
  simp at h

theorem scaled_ne_zero {den : Nat} (hden : den ≠ 0) (s : Int) : den * pow2 s.toNat ≠ 0 :=
  Nat.mul_ne_zero hden (Nat.two_pow_pos _).ne'

end Quotients

section HalfEven

/-- A quotient which is whole is not rounded. -/
theorem roundHalfEven_of_eq {num den n : Nat} (hden : den ≠ 0) (h : (num : Rat) / den = n) :
    roundHalfEven num den = n := by
  have hden' : (den : Rat) ≠ 0 := Nat.cast_ne_zero.2 hden
  obtain rfl : num = n * den := by
    rw [div_eq_iff hden'] at h
    exact_mod_cast h
  have hpos := Nat.pos_of_ne_zero hden
  unfold roundHalfEven
  simp only [Nat.mul_mod_left, Nat.mul_zero, hpos, if_true]
  exact Nat.mul_div_cancel n hpos

/-- Less than a half is rounded to zero. -/
theorem roundHalfEven_of_lt {num den : Nat} (hden : den ≠ 0) (h : (num : Rat) / den < 1 / 2) :
    roundHalfEven num den = 0 := by
  have hden' : (0 : Rat) < den := Nat.cast_pos.2 (Nat.pos_of_ne_zero hden)
  have hhalf : 2 * num < den := by
    rw [div_lt_div_iff₀ hden' (by norm_num)] at h
    have h' : (num : Rat) * 2 < den := by linarith
    have : num * 2 < den := by exact_mod_cast h'
    omega
  have hless : num < den := by omega
  unfold roundHalfEven
  simp only [Nat.mod_eq_of_lt hless, hhalf, if_true]
  exact Nat.div_eq_of_lt hless

end HalfEven

namespace Format

/-- The formats of up to 64 bits.  All bounds which the texts of floats rely on follow from these
widths. -/
structure Narrow (f : Format) : Prop where
  fraction_le : f.fraction ≤ 52
  exponent_le : f.exponent ≤ 11

theorem narrow_binary32 : binary32.Narrow := ⟨by decide, by decide⟩

theorem narrow_binary64 : binary64.Narrow := ⟨by decide, by decide⟩

/-- The numbers of a narrow format are neither very small nor very large. -/
theorem Narrow.scale_bounds {f : Format} (h : f.Narrow) :
    -1074 ≤ f.minScale ∧ f.minScale + f.fraction + 2 ^ f.exponent ≤ 1026 := by
  have hhalf : 2 ^ (f.exponent - 1) ≤ 2 ^ 10 :=
    Nat.pow_le_pow_right (by decide) (by have := h.exponent_le; omega)
  have hdouble : 2 ^ f.exponent ≤ 2 * 2 ^ (f.exponent - 1) := by
    rw [← Nat.pow_succ']
    exact Nat.pow_le_pow_right (by decide) (by omega)
  have hcast : ((2 ^ f.exponent : Nat) : Int) = 2 ^ f.exponent := by push_cast; rfl
  have hfraction := h.fraction_le
  unfold minScale
  simp only [pow2, Nat.pow_eq]
  omega

variable {f : Format} {num den : Nat}

/-- The bounds which the binary digits of two naturals give for their quotient. -/
theorem quotient_bounds (hnum : num ≠ 0) (hden : den ≠ 0) :
    (2 : Rat) ^ ((num.log2 : Int) - den.log2 - 1) < num / den ∧
      (num : Rat) / den < 2 ^ ((num.log2 : Int) - den.log2 + 1) := by
  have hden' : (0 : Rat) < den := Nat.cast_pos.2 (Nat.pos_of_ne_zero hden)
  have hnumLower : (2 : Rat) ^ num.log2 ≤ num := by exact_mod_cast Nat.log2_self_le hnum
  have hnumUpper : (num : Rat) < 2 ^ (num.log2 + 1) := by exact_mod_cast Nat.lt_log2_self
  have hdenLower : (2 : Rat) ^ den.log2 ≤ den := by exact_mod_cast Nat.log2_self_le hden
  have hdenUpper : (den : Rat) < 2 ^ (den.log2 + 1) := by exact_mod_cast Nat.lt_log2_self
  have hnum' : (0 : Rat) < num := Nat.cast_pos.2 (Nat.pos_of_ne_zero hnum)
  have htwo : (2 : Rat) ≠ 0 := by norm_num
  constructor
  · calc
      (2 : Rat) ^ ((num.log2 : Int) - den.log2 - 1)
        = 2 ^ num.log2 / 2 ^ (den.log2 + 1) := by
          rw [← zpow_natCast, ← zpow_natCast, ← zpow_sub₀ htwo]
          congr 1
          omega
      _ < num / den := div_lt_div₀' hnumLower hdenUpper hnum' hden'
  · calc
      (num : Rat) / den < 2 ^ (num.log2 + 1) / 2 ^ den.log2 := by gcongr
      _ = 2 ^ ((num.log2 : Int) - den.log2 + 1) := by
          rw [← zpow_natCast, ← zpow_natCast, ← zpow_sub₀ htwo]
          congr 1
          omega

/-- The binary digits of two naturals give the logarithm of their quotient up to one. -/
theorem log_bounds (hnum : num ≠ 0) (hden : den ≠ 0) :
    (num.log2 : Int) - den.log2 - 1 ≤ Int.log 2 ((num : Rat) / den) ∧
      Int.log 2 ((num : Rat) / den) ≤ (num.log2 : Int) - den.log2 := by
  obtain ⟨hlower, hupper⟩ := quotient_bounds hnum hden
  have hpos : (0 : Rat) < num / den := lt_trans (zpow_pos (by norm_num) _) hlower
  constructor
  · exact (Int.zpow_le_iff_le_log (by decide) hpos).1 (by exact_mod_cast hlower.le)
  · exact Int.lt_add_one_iff.1 ((Int.lt_zpow_iff_log_lt (by decide) hpos).1 (by exact_mod_cast hupper))

/-- At a scale the significand is not of full width exactly if the logarithm is too small. -/
theorem scaled_lt_iff (hpos : (0 : Rat) < num / den) (hden : den ≠ 0) (scale : Int) :
    num * pow2 (-scale).toNat / (den * pow2 scale.toNat) < pow2 f.fraction ↔
      Int.log 2 ((num : Rat) / den) < scale + f.fraction := by
  have hpower : (0 : Rat) < 2 ^ scale := zpow_pos (by norm_num) scale
  rw [div_lt_iff_quotient_lt (scaled_ne_zero hden scale), scaled_eq (by decide),
    ← Int.lt_zpow_iff_log_lt (by decide) hpos, pow2, Nat.pow_eq]
  push_cast
  rw [zpow_neg, ← div_eq_mul_inv, div_lt_iff₀ hpower, zpow_add₀ (by norm_num), zpow_natCast,
    mul_comm]

/-- The scale is the one at which the number has a significand of full width, unless that is below
the least scale. -/
theorem scaleOf_eq (hnum : num ≠ 0) (hden : den ≠ 0) :
    f.scaleOf num den = max f.minScale (Int.log 2 ((num : Rat) / den) - f.fraction) := by
  have hpos : (0 : Rat) < num / den :=
    div_pos (Nat.cast_pos.2 (Nat.pos_of_ne_zero hnum)) (Nat.cast_pos.2 (Nat.pos_of_ne_zero hden))
  obtain ⟨hleast, hmost⟩ := log_bounds hnum hden
  unfold scaleOf
  simp only
  generalize hguess : (num.log2 : Int) - den.log2 - f.fraction = guess
  congr 1
  split
  · have hlog := (scaled_lt_iff hpos hden guess).1 ‹_›
    omega
  · have hlog := mt (scaled_lt_iff hpos hden guess).2 ‹_›
    omega

/-- A significand and a scale which belong together: the significand is of full width, unless the
scale is the least. -/
structure Fits (f : Format) (significand : Nat) (scale : Int) : Prop where
  width : significand < 2 ^ (f.fraction + 1)
  least : f.minScale ≤ scale
  full : f.minScale < scale → 2 ^ f.fraction ≤ significand

variable {significand : Nat} {scale : Int}

/-- The scale of a number which has a significand and a scale in the format. -/
theorem Fits.scaleOf_eq (h : f.Fits significand scale) (hne : significand ≠ 0) (hden : den ≠ 0)
    (hvalue : (num : Rat) / den = significand * 2 ^ scale) : f.scaleOf num den = scale := by
  have hpower : (0 : Rat) < 2 ^ scale := zpow_pos (by norm_num) scale
  have hsignificand : (0 : Rat) < significand := Nat.cast_pos.2 (Nat.pos_of_ne_zero hne)
  have hpos : (0 : Rat) < num / den := hvalue ▸ mul_pos hsignificand hpower
  rw [Format.scaleOf_eq (num_ne_zero_of_pos hpos) hden]
  have hmost : Int.log 2 ((num : Rat) / den) < f.fraction + 1 + scale := by
    rw [← Int.lt_zpow_iff_log_lt (by decide) hpos, hvalue]
    push_cast
    rw [zpow_add₀ (by norm_num)]
    have hwidth : (significand : Rat) < 2 ^ (f.fraction + 1) := by exact_mod_cast h.width
    exact mul_lt_mul_of_pos_right (by exact_mod_cast hwidth) hpower
  rcases eq_or_lt_of_le h.least with heq | hlt
  · omega
  · have hleast : f.fraction + scale ≤ Int.log 2 ((num : Rat) / den) := by
      rw [← Int.zpow_le_iff_le_log (by decide) hpos, hvalue]
      push_cast
      rw [zpow_add₀ (by norm_num)]
      have hfull : (2 : Rat) ^ f.fraction ≤ significand := by exact_mod_cast h.full hlt
      exact mul_le_mul_of_nonneg_right (by exact_mod_cast hfull) hpower.le
    omega

/-- A number which has a significand and a scale in the format is not rounded. -/
theorem Fits.roundMagnitude_eq (h : f.Fits significand scale) (hne : significand ≠ 0)
    (hden : den ≠ 0)
    (hvalue : (num : Rat) / den = significand * 2 ^ scale) :
    f.roundMagnitude num den =
      min f.infinity ((scale - f.minScale).toNat * pow2 f.fraction + significand) := by
  have hsignificand : (0 : Rat) < significand := Nat.cast_pos.2 (Nat.pos_of_ne_zero hne)
  have hpos : (0 : Rat) < num / den := hvalue ▸ mul_pos hsignificand (zpow_pos (by norm_num) scale)
  have hnum := num_ne_zero_of_pos hpos
  have hwhole : roundHalfEven (num * pow2 (-scale).toNat) (den * pow2 scale.toNat) = significand := by
    apply roundHalfEven_of_eq (scaled_ne_zero hden scale)
    rw [scaled_eq (by decide), hvalue]
    push_cast
    rw [mul_assoc, ← zpow_add₀ (by norm_num), add_neg_cancel, zpow_zero, mul_one]
  unfold roundMagnitude
  simp only [if_neg hnum, h.scaleOf_eq hne hden hvalue, hwhole]

/-- A number below half of the least float is rounded to zero. -/
theorem roundMagnitude_of_lt (hden : den ≠ 0)
    (hless : (num : Rat) / den < 2 ^ (f.minScale - 1)) : f.roundMagnitude num den = 0 := by
  by_cases hnum : num = 0
  · rw [roundMagnitude, if_pos hnum]
  have hpos : (0 : Rat) < num / den :=
    div_pos (Nat.cast_pos.2 (Nat.pos_of_ne_zero hnum)) (Nat.cast_pos.2 (Nat.pos_of_ne_zero hden))
  have hlog : Int.log 2 ((num : Rat) / den) < f.minScale - 1 :=
    (Int.lt_zpow_iff_log_lt (by decide) hpos).1 (by exact_mod_cast hless)
  have hscale : f.scaleOf num den = f.minScale := by
    rw [scaleOf_eq hnum hden]
    omega
  have hnothing :
      roundHalfEven (num * pow2 (-f.minScale).toNat) (den * pow2 f.minScale.toNat) = 0 := by
    apply roundHalfEven_of_lt (scaled_ne_zero hden f.minScale)
    rw [scaled_eq (by decide)]
    have hpower : (0 : Rat) < 2 ^ (-f.minScale) := zpow_pos (by norm_num) _
    calc
      (num : Rat) / den * ((2 : Nat) : Rat) ^ (-f.minScale)
        < 2 ^ (f.minScale - 1) * 2 ^ (-f.minScale) := by
          push_cast
          exact mul_lt_mul_of_pos_right hless hpower
      _ = 1 / 2 := by
          have hexponent : f.minScale - 1 + -f.minScale = -1 := by omega
          rw [← zpow_add₀ (by norm_num), hexponent]
          norm_num
  unfold roundMagnitude
  simp only [if_neg hnum, hscale, hnothing, sub_self, Int.toNat_zero, Nat.zero_mul, Nat.add_zero,
    Nat.min_zero]

/-- A number above all floats is rounded to infinity. -/
theorem roundMagnitude_of_le (hden : den ≠ 0)
    (hmore : (2 : Rat) ^ (f.minScale + f.fraction + 2 ^ f.exponent) ≤ num / den) :
    f.roundMagnitude num den = f.infinity := by
  have hpos : (0 : Rat) < num / den := lt_of_lt_of_le (zpow_pos (by norm_num) _) hmore
  have hnum := num_ne_zero_of_pos hpos
  have hlog : f.minScale + f.fraction + 2 ^ f.exponent ≤ Int.log 2 ((num : Rat) / den) :=
    (Int.zpow_le_iff_le_log (by decide) hpos).1 (by exact_mod_cast hmore)
  have hfield : 2 ^ f.exponent ≤ (f.scaleOf num den - f.minScale).toNat := by
    have hscale := scaleOf_eq (f := f) hnum hden
    have hpow : ((2 ^ f.exponent : Nat) : Int) = 2 ^ f.exponent := by push_cast; rfl
    omega
  unfold roundMagnitude
  simp only [if_neg hnum]
  apply Nat.min_eq_left
  calc
    f.infinity ≤ 2 ^ f.exponent * pow2 f.fraction := Nat.mul_le_mul_right _ (Nat.sub_le _ _)
    _ ≤ (f.scaleOf num den - f.minScale).toNat * pow2 f.fraction := Nat.mul_le_mul_right _ hfield
    _ ≤ _ := Nat.le_add_right _ _

section Decode

variable {bits : Nat} {negative : Bool}

/-- A pattern is its sign and its magnitude. -/
theorem withSign_magnitude (h : bits < 2 * f.signBit) :
    f.withSign (f.isNegative bits) (f.magnitude bits) = bits := by
  have hpos : 0 < f.signBit := Nat.two_pow_pos _
  have hsign : bits / f.signBit < 2 := (Nat.div_lt_iff_lt_mul hpos).2 h
  have hparts := Nat.div_add_mod bits f.signBit
  unfold withSign zero isNegative magnitude
  generalize bits / f.signBit = sign at *
  obtain rfl | rfl : sign = 0 ∨ sign = 1 := by omega
  · simpa using hparts
  · simpa using hparts

theorem field_lt (bits : Nat) : f.magnitude bits / pow2 f.fraction < pow2 f.exponent := by
  have hbound : f.magnitude bits < f.signBit := Nat.mod_lt _ (Nat.two_pow_pos _)
  apply (Nat.div_lt_iff_lt_mul (Nat.two_pow_pos f.fraction)).2
  rw [signBit, pow2, Nat.pow_eq, Nat.pow_add, Nat.mul_comm] at hbound
  exact hbound

/-- A finite pattern is a significand and a scale which belong together, and its magnitude is made of
these. -/
structure Finite (f : Format) (bits : Nat) (negative : Bool) (significand : Nat) (scale : Int) :
    Prop where
  sign : f.isNegative bits = negative
  magnitude : f.magnitude bits = (scale - f.minScale).toNat * pow2 f.fraction + significand
  lt_infinity : f.magnitude bits < f.infinity
  fits : f.Fits significand scale
  most : scale < f.minScale + 2 ^ f.exponent

/-- Below the smallest normal number the significand is the whole magnitude. -/
theorem finite_of_lt (hfinite : f.magnitude bits < f.infinity)
    (hless : f.magnitude bits < pow2 f.fraction) :
    f.Finite bits (f.isNegative bits) (f.magnitude bits) f.minScale where
  sign := rfl
  magnitude := by simp
  lt_infinity := hfinite
  fits := by
    refine ⟨?_, le_rfl, fun hscale => absurd hscale (lt_irrefl _)⟩
    exact lt_trans hless (Nat.pow_lt_pow_right (by decide) (Nat.lt_succ_self _))
  most := by
    have hpower : (0 : Int) < 2 ^ f.exponent := by positivity
    omega

/-- The leading bit of a normal number is not in its magnitude. -/
theorem finite_of_field {field fraction : Nat} (hfinite : f.magnitude bits < f.infinity)
    (hfield : field ≠ 0) (hmost : field < pow2 f.exponent) (hfraction : fraction < pow2 f.fraction)
    (hparts : field * pow2 f.fraction + fraction = f.magnitude bits) :
    f.Finite bits (f.isNegative bits) (pow2 f.fraction + fraction)
      (f.minScale + (field - 1 : Nat)) where
  sign := rfl
  magnitude := by
    have hwhole : field * pow2 f.fraction = (field - 1) * pow2 f.fraction + pow2 f.fraction := by
      rw [← Nat.succ_mul, Nat.succ_eq_add_one, Nat.sub_add_cancel (Nat.pos_of_ne_zero hfield)]
    rw [add_sub_cancel_left, Int.toNat_natCast]
    omega
  lt_infinity := hfinite
  fits := by
    have hdouble : 2 ^ (f.fraction + 1) = 2 * pow2 f.fraction := Nat.pow_succ'
    exact ⟨by omega, by omega, fun _ => Nat.le_add_right _ _⟩
  most := by
    have hcast : ((pow2 f.exponent : Nat) : Int) = 2 ^ f.exponent := by
      rw [pow2, Nat.pow_eq]
      push_cast
      rfl
    omega

/-- The three kinds of patterns. -/
theorem decode_cases (f : Format) (bits : Nat) :
    (∃ payload, f.decode bits = .nan (f.isNegative bits) payload ∧ f.isNaN bits = true) ∨
      (f.decode bits = .infinite (f.isNegative bits) ∧ f.magnitude bits = f.infinity) ∨
      ∃ significand scale, f.decode bits = .finite (f.isNegative bits) significand scale ∧
        f.Finite bits (f.isNegative bits) significand scale := by
  have hmost := field_lt (f := f) bits
  have hparts := Nat.div_add_mod (f.magnitude bits) (pow2 f.fraction)
  have hfraction : f.magnitude bits % pow2 f.fraction < pow2 f.fraction :=
    Nat.mod_lt _ (Nat.two_pow_pos _)
  unfold decode
  simp only
  generalize f.magnitude bits / pow2 f.fraction = field at *
  generalize f.magnitude bits % pow2 f.fraction = fraction at *
  rw [Nat.mul_comm] at hparts
  by_cases hlast : field = pow2 f.exponent - 1
  · have hinfinity : f.infinity = field * pow2 f.fraction := by rw [hlast, infinity]
    by_cases hnone : fraction = 0
    · rw [if_pos hlast, if_pos hnone]
      exact .inr (.inl ⟨rfl, by omega⟩)
    · rw [if_pos hlast, if_neg hnone]
      refine .inl ⟨fraction, rfl, ?_⟩
      rw [isNaN, decide_eq_true_eq]
      omega
  · have hfinite : f.magnitude bits < f.infinity := by
      have hnext : (field + 1) * pow2 f.fraction ≤ f.infinity :=
        Nat.mul_le_mul_right _ (by omega)
      rw [Nat.add_mul] at hnext
      omega
    refine .inr (.inr ?_)
    by_cases hleast : field = 0
    · rw [if_neg hlast, if_pos hleast]
      obtain rfl : fraction = f.magnitude bits := by simpa [hleast] using hparts
      exact ⟨_, _, rfl, finite_of_lt hfinite hfraction⟩
    · rw [if_neg hlast, if_neg hleast]
      exact ⟨_, _, rfl, finite_of_field hfinite hleast hmost hfraction hparts⟩

/-- A number which is a float is rounded to itself. -/
theorem Finite.roundMagnitude_eq (h : f.Finite bits negative significand scale)
    (hpos : significand ≠ 0) (hden : den ≠ 0)
    (hvalue : (num : Rat) / den = significand * 2 ^ scale) :
    f.roundMagnitude num den = f.magnitude bits := by
  rw [h.fits.roundMagnitude_eq hpos hden hvalue, ← h.magnitude]
  exact Nat.min_eq_right h.lt_infinity.le

/-- Only zero has a significand of zero. -/
theorem Finite.magnitude_eq_zero (h : f.Finite bits negative 0 scale) : f.magnitude bits = 0 := by
  have hscale : scale = f.minScale := by
    rcases eq_or_lt_of_le h.fits.least with heq | hless
    · exact heq.symm
    · exact absurd (h.fits.full hless) (Nat.not_le.2 (Nat.two_pow_pos _))
  rw [h.magnitude, hscale]
  simp

theorem Finite.isNaN_eq_false (h : f.Finite bits negative significand scale) :
    f.isNaN bits = false := by
  rw [isNaN, decide_eq_false_iff_not]
  exact Nat.not_lt.2 h.lt_infinity.le

end Decode

end Format

end WasmCall.Floating
