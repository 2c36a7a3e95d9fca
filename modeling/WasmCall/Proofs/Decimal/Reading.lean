import WasmCall.Decimal.Reading
import WasmCall.Proofs.Decimal.Shortest

/-!
# Nothing is lost by reading with small powers

Digits are read as the float nearest to the number they stand for (`toFloat_eq`).  Numbers of more
than 400 digits before the point, and those with 400 zeros behind it, are decided without a power
of ten; the format would come to the same.
-/

namespace WasmCall.Decimal

open Floating

variable {f : Format} {digits : List Char}

/-- Zeros in front do not count. -/
theorem natOfDigits_dropWhile (cs : List Char) :
    natOfDigits (cs.dropWhile (· == '0')) = natOfDigits cs := by
  induction cs with
  | nil => rfl
  | cons c cs ih =>
      by_cases hc : c = '0'
      · subst hc
        have hzero : digitValue '0' = 0 := rfl
        rw [List.dropWhile_cons_of_pos rfl, ih, natOfDigits_cons, hzero, Nat.mul_zero, Nat.zero_add]
      · rw [List.dropWhile_cons_of_neg (by simpa using hc)]

/-- The value of digits without a zero in front, which are scaled by a power of ten, lies between two
powers of ten. -/
theorem scaled_bounds {c : Char} {cs : List Char} (hdigits : ∀ d ∈ c :: cs, d.isDigit = true)
    (hne : c ≠ '0') (e : Int) :
    (10 : Rat) ^ ((c :: cs).length + e - 1) ≤ natOfDigits (c :: cs) * 10 ^ e ∧
      (natOfDigits (c :: cs) : Rat) * 10 ^ e < 10 ^ ((c :: cs).length + e) := by
  have hpower : (0 : Rat) < 10 ^ e := zpow_pos (by norm_num) e
  have hleast : (10 : Rat) ^ cs.length ≤ natOfDigits (c :: cs) := by
    exact_mod_cast pow_le_natOfDigits (hdigits c List.mem_cons_self) hne
  have hmost : (natOfDigits (c :: cs) : Rat) < 10 ^ (c :: cs).length := by
    exact_mod_cast natOfDigits_lt hdigits
  constructor
  · have hsplit : ((c :: cs).length : Int) + e - 1 = (cs.length : Int) + e := by
      rw [List.length_cons]
      push_cast
      ring
    rw [hsplit, zpow_add₀ (by norm_num), zpow_natCast]
    exact mul_le_mul_of_nonneg_right hleast hpower.le
  · rw [zpow_add₀ (by norm_num), zpow_natCast]
    exact mul_lt_mul_of_pos_right hmost hpower

/-- A power of ten is larger than the power of two with three times the exponent. -/
theorem two_pow_le_ten_pow : (2 : Rat) ^ (1200 : Int) ≤ 10 ^ (400 : Int) := by
  have hnat : (2 : Rat) ^ 1200 ≤ 10 ^ 400 :=
    calc
      (2 : Rat) ^ 1200 = (2 ^ 3) ^ 400 := by rw [← pow_mul]
      _ ≤ 10 ^ 400 := pow_le_pow_left₀ (by norm_num) (by norm_num) 400
  exact_mod_cast hnat

/-- Below all floats of a narrow format. -/
theorem roundMagnitude_of_lt_pow_ten (hf : f.Narrow) {num den : Nat} (hden : den ≠ 0)
    (h : (num : Rat) / den < 10 ^ (-400 : Int)) : f.roundMagnitude num den = 0 := by
  apply Format.roundMagnitude_of_lt hden
  calc
    (num : Rat) / den < 10 ^ (-400 : Int) := h
    _ ≤ 2 ^ (-1200 : Int) := by
      rw [zpow_neg, zpow_neg]
      exact inv_anti₀ (zpow_pos (by norm_num) _) two_pow_le_ten_pow
    _ ≤ 2 ^ (f.minScale - 1) := by
      have hleast := hf.scale_bounds.1
      exact zpow_le_zpow_right₀ (by norm_num) (by omega)

/-- Above all floats of a narrow format. -/
theorem roundMagnitude_of_pow_ten_le (hf : f.Narrow) {num den : Nat} (hden : den ≠ 0)
    (h : (10 : Rat) ^ (400 : Int) ≤ num / den) : f.roundMagnitude num den = f.infinity := by
  apply Format.roundMagnitude_of_le hden
  calc
    (2 : Rat) ^ (f.minScale + f.fraction + 2 ^ f.exponent) ≤ 2 ^ (1200 : Int) :=
      zpow_le_zpow_right₀ (by norm_num) (hf.scale_bounds.2.trans (by norm_num))
    _ ≤ 10 ^ (400 : Int) := two_pow_le_ten_pow
    _ ≤ num / den := h

/-- Digits are read as the float nearest to the number they stand for. -/
theorem toFloat_eq (hf : f.Narrow) (negative : Bool) (hdigits : ∀ c ∈ digits, c.isDigit = true)
    (e : Int) :
    toFloat f negative digits e =
      f.ofRatio negative (scaleDecimal (natOfDigits digits) e).1
        (scaleDecimal (natOfDigits digits) e).2 := by
  have hsame := natOfDigits_dropWhile digits
  have hisDigit : ∀ c ∈ digits.dropWhile (· == '0'), c.isDigit = true :=
    fun c hc => hdigits c (List.dropWhile_sublist _ |>.subset hc)
  have hhead : ∀ c cs, digits.dropWhile (· == '0') = c :: cs → c ≠ '0' := by
    intro c cs hcs hzero
    have hnot := List.head?_dropWhile_not (· == '0') digits
    simp [hcs, hzero] at hnot
  rw [← hsame]
  unfold toFloat
  simp only
  generalize digits.dropWhile (· == '0') = significant at *
  cases significant with
  | nil => simp [natOfDigits, scaleDecimal, Format.ofRatio, Format.roundMagnitude, Format.withSign]
  | cons c cs =>
      have hvalue := value_scaleDecimal (natOfDigits (c :: cs)) e
      have hden := scaleDecimal_ne_zero (natOfDigits (c :: cs)) e
      obtain ⟨hleast, hmost⟩ := scaled_bounds hisDigit (hhead c cs rfl) e
      rw [← hvalue] at hleast hmost
      simp only [List.isEmpty_cons, Bool.false_or, decide_eq_true_eq]
      split
      · have hnothing : f.roundMagnitude (scaleDecimal (natOfDigits (c :: cs)) e).1
            (scaleDecimal (natOfDigits (c :: cs)) e).2 = 0 :=
          roundMagnitude_of_lt_pow_ten hf hden
            (hmost.trans_le (zpow_le_zpow_right₀ (by norm_num) (by omega)))
        rw [Format.ofRatio, hnothing]
        rfl
      · split
        · have hinfinite : f.roundMagnitude (scaleDecimal (natOfDigits (c :: cs)) e).1
              (scaleDecimal (natOfDigits (c :: cs)) e).2 = f.infinity :=
            roundMagnitude_of_pow_ten_le hf hden
              ((zpow_le_zpow_right₀ (by norm_num) (by omega)).trans hleast)
          rw [Format.ofRatio, hinfinite]
        · rfl

end WasmCall.Decimal
