import Mathlib.Data.List.DropRight
import WasmCall.Proofs.Decimal.Digits
import WasmCall.Proofs.Floating.Rounding

/-!
# The decimal of a float reads as the float

The search for the fewest digits returns the first candidate which reads as the float, so all there
is to show is that it comes to an end: every float is a decimal itself, and the finest of the grids
is fine enough for it (`exists_whole`).  There the first candidate is the float (`neighbours_of_whole`),
and whatever has the value of the float reads as the float (`read_of_value`).

* `value`: the number which a decimal stands for.
* `read_ofMagnitude`: the decimal which is found reads as the float.
-/

namespace WasmCall.Decimal

open Floating

/-- The number which a decimal stands for. -/
def value (d : Decimal) : Rat := d.digits * 10 ^ d.exponent

theorem value_scaleDecimal (n : Nat) (e : Int) :
    ((scaleDecimal n e).1 : Rat) / (scaleDecimal n e).2 = n * 10 ^ e := by
  have hpower := pow_toNat_div_pow_toNat (b := 10) (by norm_num) e
  rw [scaleDecimal, pow10, pow10, Nat.pow_eq, Nat.pow_eq]
  push_cast
  rw [mul_div_assoc, hpower]

theorem scaleDecimal_ne_zero (n : Nat) (e : Int) : (scaleDecimal n e).2 ≠ 0 :=
  (Nat.pow_pos (by decide : 0 < 10)).ne'

/-- A decimal which has the value of a float reads as it. -/
theorem read_of_value {f : Format} {bits significand : Nat} {negative : Bool} {scale : Int}
    (h : f.Finite bits negative significand scale) (hpos : significand ≠ 0) {d : Decimal}
    (hvalue : d.value = significand * 2 ^ scale) : d.read f = f.magnitude bits := by
  apply h.roundMagnitude_eq hpos (scaleDecimal_ne_zero d.digits d.exponent)
  exact (value_scaleDecimal d.digits d.exponent).trans hvalue

/-- A decimal without digits reads as zero. -/
theorem read_of_digits_eq_zero {f : Format} {d : Decimal} (h : d.digits = 0) : d.read f = 0 := by
  unfold read
  simp [scaleDecimal, h, Format.roundMagnitude]

/-- A natural is what is left of its digits, and zeros at the end. -/
theorem exists_stripped {n : Nat} (hn : n ≠ 0) (e : Int) :
    ∃ kept count, ofScaled n e = ⟨natOfDigits kept, (kept.length + count : Nat) + e⟩ ∧
      digitCount (natOfDigits kept) = kept.length ∧ n = natOfDigits kept * 10 ^ count := by
  have hsplit := List.takeWhile_append_dropWhile (p := (· == '0')) (l := (Nat.toDigits 10 n).reverse)
  generalize hzeros : (Nat.toDigits 10 n).reverse.takeWhile (· == '0') = zeros at hsplit
  generalize hrest : (Nat.toDigits 10 n).reverse.dropWhile (· == '0') = rest at hsplit
  have hall : zeros = List.replicate zeros.length '0' := by
    apply List.eq_replicate_of_mem
    intro c hc
    rw [← hzeros] at hc
    simpa using List.mem_takeWhile_imp hc
  have hdigits : Nat.toDigits 10 n = rest.reverse ++ List.replicate zeros.length '0' := by
    rw [← List.reverse_reverse (Nat.toDigits 10 n), ← hsplit, List.reverse_append, hall]
    simp
  have hvalue : n = natOfDigits rest.reverse * 10 ^ zeros.length := by
    calc
      n = natOfDigits (Nat.toDigits 10 n) := (natOfDigits_toDigits n).symm
      _ = natOfDigits rest.reverse * 10 ^ zeros.length := by
        rw [hdigits, natOfDigits_append, natOfDigits_zeros, List.length_replicate, Nat.add_zero,
          Nat.mul_comm]
  have hpos : natOfDigits rest.reverse ≠ 0 := by
    intro hzero
    rw [hzero, Nat.zero_mul] at hvalue
    exact hn hvalue
  have hnonempty : rest.reverse ≠ [] := by
    intro hnil
    rw [hnil] at hpos
    exact hpos rfl
  have hisDigit : ∀ c ∈ rest.reverse, c.isDigit = true := by
    intro c hc
    apply isDigit_toDigits n
    rw [hdigits]
    exact List.mem_append_left _ hc
  have hhead : rest.reverse.head? ≠ some '0' := by
    have hfirst := head_toDigits_ne hn
    rwa [hdigits, List.head?_append_of_ne_nil _ hnonempty] at hfirst
  refine ⟨rest.reverse, zeros.length, ?_, ?_, hvalue⟩
  · have hcount : (Nat.toDigits 10 n).length = rest.reverse.length + zeros.length := by
      rw [hdigits, List.length_append, List.length_replicate]
    unfold ofScaled
    simp only [hrest, hcount]
    rfl
  · rw [digitCount, if_neg hpos]
    exact length_toDigits_natOfDigits hisDigit hnonempty hhead

/-- Zeros at the end do not change the value. -/
theorem value_ofScaled {n : Nat} (hn : n ≠ 0) (e : Int) :
    (ofScaled n e).value = n * 10 ^ e := by
  obtain ⟨kept, count, hdecimal, hlength, hvalue⟩ := exists_stripped hn e
  have hexponent : (ofScaled n e).exponent = count + e := by
    rw [hdecimal, exponent, hlength]
    simp only [Nat.cast_add]
    omega
  calc
    (ofScaled n e).value = natOfDigits kept * 10 ^ (count + e) := by
      rw [value, hexponent, hdecimal]
    _ = (natOfDigits kept * 10 ^ count : Nat) * 10 ^ e := by
      rw [zpow_add₀ (by norm_num), zpow_natCast]
      push_cast
      ring
    _ = n * 10 ^ e := by rw [← hvalue]

namespace Shortest

variable {f : Format} {bits significand magnitude num den : Nat} {negative : Bool} {scale : Int}

/-- On a grid on which a number is, it is the first of its neighbours. -/
theorem neighbours_of_whole (hden : den ≠ 0) {n : Nat} {e : Int}
    (h : (num : Rat) / den = n * 10 ^ e) : neighbours num den e = [n, n + 1] := by
  have hscaledDen : den * pow10 e.toNat ≠ 0 :=
    Nat.mul_ne_zero hden (Nat.pow_pos (by decide : 0 < 10)).ne'
  have hwhole : ((num * pow10 (-e).toNat : Nat) : Rat) / (den * pow10 e.toNat : Nat) = n := by
    rw [scaled_eq (by decide), h]
    push_cast
    rw [mul_assoc, ← zpow_add₀ (by norm_num), add_neg_cancel, zpow_zero, mul_one]
  have hnum : num * pow10 (-e).toNat = n * (den * pow10 e.toNat) := by
    rw [div_eq_iff (Nat.cast_ne_zero.2 hscaledDen)] at hwhole
    exact_mod_cast hwhole
  have hpos := Nat.pos_of_ne_zero hscaledDen
  unfold neighbours
  simp only [hnum, Nat.mul_mod_left, Nat.mul_zero, hpos, if_true, Nat.mul_div_cancel n hpos]

/-- What is found reads as the float, if the number is on the finest grid. -/
theorem read_search (hden : den ≠ 0) {point : Int} {n : Nat} (hn : n ≠ 0)
    (hwhole : (num : Rat) / den = n * 10 ^ (point - exactDigits))
    (hreads : ∀ d : Decimal, d.value = num / den → d.read f = magnitude) :
    (search f magnitude num den point).read f = magnitude := by
  unfold search
  simp only
  cases hfound : (List.range exactDigits).findSome? _ with
  | some d =>
      obtain ⟨k, -, hcandidate⟩ := List.exists_of_findSome?_eq_some hfound
      obtain ⟨c, -, htried⟩ := List.exists_of_findSome?_eq_some hcandidate
      split at htried
      · rename_i hread
        cases htried
        exact hread
      · cases htried
  | none =>
      -- The last grid is tried, and there the number itself.
      have hlast := List.findSome?_eq_none_iff.1 hfound (exactDigits - 1)
        (List.mem_range.2 (by decide))
      have hgrid : point - ((exactDigits - 1 + 1 : Nat) : Int) = point - exactDigits := rfl
      rw [hgrid, neighbours_of_whole hden hwhole] at hlast
      have hread : (ofScaled n (point - exactDigits)).read f = magnitude :=
        hreads _ ((value_ofScaled hn _).trans hwhole.symm)
      simp [hread] at hlast

/-- The place of the point is not far above the binary digits of the number. -/
theorem pointOf_le (num den : Nat) :
    pointOf num den ≤ ((num.log2 : Int) - den.log2) * 30103 / 100000 + 2 := by
  unfold pointOf
  simp only
  generalize ((num.log2 : Int) - den.log2) * 30103 / 100000 = guess
  cases hfound : List.find? _ [guess - 1, guess, guess + 1] with
  | none => exact le_rfl
  | some k =>
      have hmem := List.mem_of_find?_eq_some hfound
      simp only [List.mem_cons, List.not_mem_nil, or_false] at hmem
      rw [Option.getD_some]
      omega

/-- Every float is on the grids which are fine enough. -/
theorem exists_whole (hpos : significand ≠ 0) {e : Int} (he : e ≤ 0) (hscale : e ≤ scale) :
    ∃ n : Nat, n ≠ 0 ∧ (significand : Rat) * 2 ^ scale = n * 10 ^ e := by
  refine ⟨significand * 2 ^ (scale - e).toNat * 5 ^ (-e).toNat, by positivity, ?_⟩
  have htwo : (2 : Rat) ^ (scale - e).toNat = 2 ^ (scale - e) := by
    rw [← zpow_natCast, Int.toNat_of_nonneg (by omega)]
  have hfive : (5 : Rat) ^ (-e).toNat = 5 ^ (-e) := by
    rw [← zpow_natCast, Int.toNat_of_nonneg (by omega)]
  have hten : (10 : Rat) ^ e = 2 ^ e * 5 ^ e := by
    rw [← mul_zpow]
    norm_num
  have hcancel : (5 : Rat) ^ (-e) * 5 ^ e = 1 := by
    rw [← zpow_add₀ (by norm_num), neg_add_cancel, zpow_zero]
  have hsum : (2 : Rat) ^ (scale - e) * 2 ^ e = 2 ^ scale := by
    rw [← zpow_add₀ (by norm_num), sub_add_cancel]
  calc
    (significand : Rat) * 2 ^ scale
      = significand * (2 ^ (scale - e) * 2 ^ e) * (5 ^ (-e) * 5 ^ e) := by
        rw [hsum, hcancel, mul_one]
    _ = (significand * 2 ^ (scale - e).toNat * 5 ^ (-e).toNat : Nat) * 10 ^ e := by
        rw [hten]
        push_cast
        rw [htwo, hfive]
        ring

/-- The finest grid is fine enough for every float of a narrow format. -/
theorem pointOf_le_scale (hf : f.Narrow) (h : f.Finite bits negative significand scale)
    (hnum : num ≠ 0) (hden : den ≠ 0)
    (hvalue : (num : Rat) / den = significand * 2 ^ scale) :
    pointOf num den - exactDigits ≤ 0 ∧ pointOf num den - exactDigits ≤ scale := by
  have hfits := h.fits
  have hmost := h.most
  have hleast := hfits.least
  obtain ⟨hsmallest, hlargest⟩ := hf.scale_bounds
  have hfraction := hf.fraction_le
  have hlogs : (num.log2 : Int) - den.log2 - 1 < f.fraction + 1 + scale := by
    rw [← zpow_lt_zpow_iff_right₀ (by norm_num : (1 : Rat) < 2)]
    calc
      (2 : Rat) ^ ((num.log2 : Int) - den.log2 - 1) < num / den :=
        (Format.quotient_bounds hnum hden).1
      _ = significand * 2 ^ scale := hvalue
      _ < 2 ^ ((f.fraction : Int) + 1 + scale) := by
        have hwidth : (significand : Rat) < 2 ^ ((f.fraction : Int) + 1) := by
          exact_mod_cast hfits.width
        rw [zpow_add₀ (by norm_num)]
        exact mul_lt_mul_of_pos_right hwidth (zpow_pos (by norm_num) scale)
  have hpoint := pointOf_le num den
  have hdigits : (exactDigits : Int) = 800 := rfl
  rw [hdigits]
  generalize (num.log2 : Int) - den.log2 = logs at hlogs hpoint
  generalize (2 : Int) ^ f.exponent = fields at hmost hlargest
  omega

/-- The decimal of a float reads as the float. -/
theorem read_ofMagnitude (hf : f.Narrow) (h : f.Finite bits negative significand scale)
    (hpos : significand ≠ 0) :
    (ofMagnitude f (f.magnitude bits) significand scale).read f = f.magnitude bits := by
  have hvalue := value_scaleBinary significand scale
  have hden : (scaleBinary significand scale).2 ≠ 0 := (Nat.two_pow_pos _).ne'
  have hnum : (scaleBinary significand scale).1 ≠ 0 :=
    Nat.mul_ne_zero hpos (Nat.two_pow_pos _).ne'
  obtain ⟨hle, hscale⟩ := pointOf_le_scale hf h hnum hden hvalue
  obtain ⟨n, hn, hwhole⟩ := exists_whole hpos hle hscale
  rw [ofMagnitude]
  exact read_search hden hn (hvalue.trans hwhole) fun d hd => read_of_value h hpos (hd.trans hvalue)

/-- The decimal of a float has digits. -/
theorem digits_ofMagnitude_ne_zero (hf : f.Narrow)
    (h : f.Finite bits negative significand scale) (hpos : significand ≠ 0) :
    (ofMagnitude f (f.magnitude bits) significand scale).digits ≠ 0 := by
  intro hzero
  have hread := read_ofMagnitude hf h hpos
  rw [read_of_digits_eq_zero hzero, h.magnitude] at hread
  omega

end Shortest

end WasmCall.Decimal
