import WasmCall.Proofs.Decimal.Digits
import WasmCall.Value.Text

/-!
# One line for a value

What a function returns is printed without a line break, whatever its kind and its bits: integers
and floats are digits with at most a sign and a point, or a name, and a reference is one of two
words.
-/

namespace WasmCall

open Decimal Floating

/-- There is no line break in a text. -/
def OneLine (s : String) : Prop :=
  '\n' ∉ s.toList

instance (s : String) : Decidable (OneLine s) :=
  inferInstanceAs (Decidable ('\n' ∉ s.toList))

theorem OneLine.append {s t : String} (hs : OneLine s) (ht : OneLine t) : OneLine (s ++ t) := by
  unfold OneLine
  rw [String.toList_append, List.mem_append]
  rintro (h | h)
  · exact hs h
  · exact ht h

/-- Digits are on one line. -/
theorem oneLine_ofList {cs : List Char} (h : ∀ c ∈ cs, c.isDigit = true) :
    OneLine (String.ofList cs) := by
  unfold OneLine
  rw [String.toList_ofList]
  intro hmem
  exact absurd (h '\n' hmem) (by decide)

theorem oneLine_nat (n : Nat) : OneLine (toString n) :=
  oneLine_ofList (isDigit_toDigits n)

theorem oneLine_int (n : Int) : OneLine (toString n) := by
  cases n with
  | ofNat n => exact oneLine_nat n
  | negSucc n =>
      have hminus : OneLine "-" := by decide
      exact hminus.append (oneLine_nat (n + 1))

namespace Decimal

theorem oneLine_zeros (n : Nat) : OneLine (zeros n) :=
  oneLine_ofList (isDigit_zeros n)

/-- The sign in front of a text. -/
def sign (negative : Bool) : List Char := if negative then ['-'] else []

theorem toList_signed (negative : Bool) (s : String) :
    (if negative then "-" ++ s else s).toList = sign negative ++ s.toList := by
  cases negative with
  | true =>
      rw [if_pos rfl, String.toList_append]
      rfl
  | false => rfl

/-- Digits with a point and zeros around them. -/
theorem oneLine_positionalText {whole : String} (hwhole : OneLine whole) {digits : List Char}
    (hdigits : ∀ c ∈ digits, c.isDigit = true) (point : Int) :
    OneLine (positionalText whole digits point) := by
  have hzero : OneLine "0." := by decide
  have hpoint : OneLine "." := by decide
  unfold positionalText
  split
  · exact (hzero.append (oneLine_zeros _)).append (oneLine_ofList hdigits)
  · split
    · exact ((oneLine_ofList hdigits).append (oneLine_zeros _)).append hwhole
    · have hbefore : ∀ c ∈ digits.take point.toNat, c.isDigit = true :=
        fun c hc => hdigits c (List.mem_of_mem_take hc)
      have hbehind : ∀ c ∈ digits.drop point.toNat, c.isDigit = true :=
        fun c hc => hdigits c (List.mem_of_mem_drop hc)
      exact ((oneLine_ofList hbefore).append hpoint).append (oneLine_ofList hbehind)

/-- Among results, a decimal is written without an exponent. -/
theorem oneLine_decimal (d : Decimal) : OneLine (Layout.plain.decimal d) := by
  have hplain : Layout.plain.decimal d =
      positionalText "" (Nat.toDigits 10 d.digits) d.point := rfl
  have hnothing : OneLine "" := by decide
  rw [hplain]
  exact oneLine_positionalText hnothing (isDigit_toDigits d.digits) d.point

/-- The text of a float among results. -/
theorem oneLine_plain (f : Format) (bits : Nat) : OneLine (Layout.plain.text f bits) := by
  have hminus : OneLine "-" := by decide
  have hsigned : ∀ (negative : Bool) (s : String), OneLine s →
      OneLine (if negative then "-" ++ s else s) := by
    intro negative s hs
    cases negative with
    | true => exact hminus.append hs
    | false => exact hs
  unfold Layout.text
  cases f.decode bits with
  | nan negative payload => exact (by decide : OneLine "NaN")
  | infinite negative => exact hsigned negative "inf" (by decide)
  | finite negative significand scale =>
      by_cases hzero : significand = 0
      · simp only [if_pos hzero]
        exact hsigned negative _ (by decide)
      · simp only [if_neg hzero]
        exact hsigned negative _ (oneLine_decimal _)

end Decimal

/-- A result is printed on one line. -/
theorem oneLine_display (r : Operand) : OneLine r.toValue.display := by
  cases r with
  | i32 n => exact oneLine_int n.toInt
  | i64 n => exact oneLine_int n.toInt
  | f32 bits => exact Decimal.oneLine_plain binary32 bits.toNat
  | f64 bits => exact Decimal.oneLine_plain binary64 bits.toNat
  | ref g =>
      cases g with
      | null => exact (by decide : OneLine "null")
      | held number payload => exact (by decide : OneLine "<ref>")

end WasmCall
