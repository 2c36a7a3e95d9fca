import Mathlib.Data.Int.ModEq
import WasmCall.Proofs.Coercion
import WasmCall.Proofs.Decimal.Integers

/-!
# Coercion by number

An integer of any type is coerced by the number which it stands for, and its type plays no part.

* `Narrows`: what becomes of a number in a parameter of some width.  It stays what it is if it fits.
  If it does not, it is refused, or the number is taken which fits and is congruent to it.
* `Coerced`: what becomes of any value in a parameter of any kind.
* `coerce_eq_iff`: coercion comes to this and to nothing else.

The number which fits is determined by its remainder (`Signed.eq_of_modEq`), so two truncations one
behind the other come to the same as the narrower one alone.
-/

namespace WasmCall

/-- How many bits the integers of a kind have. -/
def Kind.width? : Kind → Option Nat
  | .i32 => some 32
  | .i64 => some 64
  | .f32 | .f64 | .ref => none

/-- A number is one of the signed integers of some width. -/
def Signed (width : Nat) (n : Int) : Prop :=
  -(2 : Int) ^ (width - 1) ≤ n ∧ n < (2 : Int) ^ (width - 1)

/-- An operand is an integer of some kind which stands for a number. -/
structure Operand.Stands (r : Operand) (k : Kind) (n : Int) : Prop where
  kind : r.kind = k
  number : r.toValue.toInt? = some n

/-- What becomes of a number in a parameter of a kind whose integers have some width.  A number which
is refused is shown by its decimal text. -/
inductive Narrows (policy : OverflowPolicy) (index : Nat) (k : Kind) (width : Nat) (n : Int) :
    Except CallError Operand → Prop
  | fits (hn : Signed width n) (r : Operand) (hr : r.Stands k n) :
      Narrows policy index k width n (.ok r)
  | truncated (hpolicy : policy = .truncate) (m : Int) (hm : Signed width m)
      (hmod : m ≡ n [ZMOD 2 ^ width]) (r : Operand) (hr : r.Stands k m) :
      Narrows policy index k width n (.ok r)
  | rejected (hpolicy : policy = .reject) (hn : ¬ Signed width n) (text : String)
      (htext : Decimal.Canonical text.toList n) :
      Narrows policy index k width n (.error (.argumentOutOfRange index k text))

/-- What becomes of a value in a parameter of a kind. -/
inductive Coerced (policy : OverflowPolicy) (index : Nat) :
    Kind → Value → Except CallError Operand → Prop
  | integer (k : Kind) (v : Value) (width : Nat) (n : Int) (hk : k.width? = some width)
      (hv : v.toInt? = some n) (result : Except CallError Operand)
      (hresult : Narrows policy index k width n result) : Coerced policy index k v result
  | f32 (bits : UInt32) : Coerced policy index .f32 (.f32 bits) (.ok (.f32 bits))
  | f64 (bits : UInt64) : Coerced policy index .f64 (.f64 bits) (.ok (.f64 bits))
  | ref (g : Handle) : Coerced policy index .ref (.ref g) (.ok (.ref g))
  | bool (k : Kind) (b : Bool) :
      Coerced policy index k (.bool b) (.error (.unsupportedArgumentType index "bool"))
  | string (k : Kind) (s : String) :
      Coerced policy index k (.string s) (.error (.unsupportedArgumentType index "string"))
  | integerMismatch (k : Kind) (v : Value) (n : Int) (hk : k.width? = none)
      (hv : v.toInt? = some n) :
      Coerced policy index k v (.error (.typeMismatch index k v.typeName))
  | f32Mismatch (k : Kind) (bits : UInt32) (hk : k ≠ .f32) :
      Coerced policy index k (.f32 bits) (.error (.typeMismatch index k "f32"))
  | f64Mismatch (k : Kind) (bits : UInt64) (hk : k ≠ .f64) :
      Coerced policy index k (.f64 bits) (.error (.typeMismatch index k "f64"))
  | refMismatch (k : Kind) (g : Handle) (hk : k ≠ .ref) :
      Coerced policy index k (.ref g) (.error (.typeMismatch index k "ref"))

section Words

variable {width : Nat} {n m : Int} {k : Kind} {r s : Operand}

theorem fitsSigned_iff : fitsSigned width n = true ↔ Signed width n := by
  have hpow : ((pow2 (width - 1) : Nat) : Int) = 2 ^ (width - 1) := Nat.cast_pow 2 (width - 1)
  simp only [fitsSigned, Signed, hpow, Bool.and_eq_true, decide_eq_true_eq]

theorem Kind.width_pos (hk : k.width? = some width) : 0 < width := by
  cases k <;> cases hk <;> decide

theorem two_pow_width (hwidth : 0 < width) : (2 : Int) ^ width = 2 * 2 ^ (width - 1) := by
  obtain ⟨w, rfl⟩ := Nat.exists_eq_succ_of_ne_zero hwidth.ne'
  rw [pow_succ, mul_comm, Nat.succ_sub_one]

/-- Of the numbers with one remainder only one is a signed integer of the width. -/
theorem Signed.eq_of_modEq (hwidth : 0 < width) (hn : Signed width n) (hm : Signed width m)
    (h : n ≡ m [ZMOD 2 ^ width]) : n = m := by
  have hpow := two_pow_width hwidth
  obtain ⟨hleast, hmost⟩ := hn
  obtain ⟨hleast', hmost'⟩ := hm
  have hsmall : |m - n| < 2 ^ width := by
    rw [abs_lt]
    omega
  have hzero := Int.eq_zero_of_abs_lt_dvd h.dvd hsmall
  omega

/-- The balanced remainder is a signed integer of the width. -/
theorem signed_bmod (hwidth : 0 < width) (n : Int) : Signed width (n.bmod (2 ^ width)) := by
  have hpow : (2 : Nat) ^ width = 2 * 2 ^ (width - 1) := by
    exact_mod_cast two_pow_width hwidth
  have hcast : ((2 ^ (width - 1) : Nat) : Int) = 2 ^ (width - 1) := Nat.cast_pow 2 (width - 1)
  have hpos : 0 < 2 ^ width := Nat.two_pow_pos width
  have hleast := Int.le_bmod (x := n) hpos
  have hmost := Int.bmod_lt (x := n) hpos
  rw [Signed]
  omega

theorem bmod_modEq (n : Int) (width : Nat) : n.bmod (2 ^ width) ≡ n [ZMOD 2 ^ width] := by
  have hdvd := Int.dvd_self_sub_bmod (x := n) (m := 2 ^ width)
  rw [Int.modEq_iff_dvd]
  exact_mod_cast hdvd

/-- Of the numbers with one remainder one is a signed integer of the width, and no other. -/
theorem existsUnique_signed (hwidth : 0 < width) (n : Int) :
    ∃! m, Signed width m ∧ m ≡ n [ZMOD 2 ^ width] := by
  refine ⟨n.bmod (2 ^ width), ⟨signed_bmod hwidth n, bmod_modEq n width⟩, ?_⟩
  rintro m ⟨hm, hmod⟩
  exact hm.eq_of_modEq hwidth (signed_bmod hwidth n) (hmod.trans (bmod_modEq n width).symm)

/-- An integer operand is determined by its kind and its number. -/
theorem Operand.Stands.unique (hr : r.Stands k n) (hs : s.Stands k n) : r = s := by
  obtain ⟨rfl, hr⟩ := hr
  obtain ⟨hkind, hs⟩ := hs
  rw [← hs] at hr
  cases r <;> cases s <;> cases hkind
  · exact congrArg Operand.i32 (Int32.toInt_inj.1 (Option.some.inj hr))
  · exact congrArg Operand.i64 (Int64.toInt_inj.1 (Option.some.inj hr))
  all_goals cases hs

theorem Operand.stands_i32 (n : Int) : (Operand.i32 (Int32.ofInt n)).Stands .i32 (n.bmod (2 ^ 32)) :=
  ⟨rfl, congrArg some Int32.toInt_ofInt⟩

theorem Operand.stands_i64 (n : Int) : (Operand.i64 (Int64.ofInt n)).Stands .i64 (n.bmod (2 ^ 64)) :=
  ⟨rfl, congrArg some Int64.toInt_ofInt⟩

end Words

section Narrowing

variable {policy : OverflowPolicy} {index width : Nat} {k : Kind} {v : Value} {n m : Int}
  {result result' : Except CallError Operand}

/-- A number is narrowed to the word with its remainder. -/
theorem narrows_coerceInt {α : Type} {ofInt : Int → α} {operand : α → Operand} (hwidth : 0 < width)
    (hstands : ∀ n, (operand (ofInt n)).Stands k (n.bmod (2 ^ width))) (policy : OverflowPolicy)
    (index : Nat) (n : Int) :
    Narrows policy index k width n (operand <$> coerceInt width k ofInt policy index n) := by
  by_cases hn : Signed width n
  · rw [coerceInt_of_fits (fitsSigned_iff.2 hn)]
    have hnumber : n.bmod (2 ^ width) = n :=
      (signed_bmod hwidth n).eq_of_modEq hwidth hn (bmod_modEq n width)
    have hword := hstands n
    rw [hnumber] at hword
    exact .fits hn _ hword
  · have hunfit : fitsSigned width n = false := by
      rw [← Bool.not_eq_true, fitsSigned_iff]
      exact hn
    cases policy with
    | reject =>
        rw [coerceInt, hunfit]
        exact .rejected rfl hn _ (Decimal.canonical_iff.2 rfl)
    | truncate =>
        rw [coerceInt, hunfit]
        exact .truncated rfl _ (signed_bmod hwidth n) (bmod_modEq n width) _ (hstands n)

/-- An integer is coerced as its number is narrowed. -/
theorem narrows_coerce (hk : k.width? = some width) (hv : v.toInt? = some n)
    (policy : OverflowPolicy) (index : Nat) :
    Narrows policy index k width n (coerce policy index k v) := by
  obtain ⟨hi32, hi64⟩ := coerce_of_toInt? hv policy index
  cases k with
  | i32 =>
      cases hk
      rw [hi32]
      exact narrows_coerceInt (by decide) Operand.stands_i32 policy index n
  | i64 =>
      cases hk
      rw [hi64]
      exact narrows_coerceInt (by decide) Operand.stands_i64 policy index n
  | _ => cases hk

/-- A number is narrowed in one way. -/
theorem Narrows.unique (hwidth : 0 < width) (h : Narrows policy index k width n result)
    (h' : Narrows policy index k width n result') : result = result' := by
  cases h with
  | fits hn r hr =>
      cases h' with
      | fits _ r' hr' => exact congrArg Except.ok (hr.unique hr')
      | truncated _ m hm hmod r' hr' =>
          obtain rfl := hm.eq_of_modEq hwidth hn hmod
          exact congrArg Except.ok (hr.unique hr')
      | rejected _ hunfit => exact absurd hn hunfit
  | truncated hpolicy m hm hmod r hr =>
      cases h' with
      | fits hn r' hr' =>
          obtain rfl := hm.eq_of_modEq hwidth hn hmod
          exact congrArg Except.ok (hr.unique hr')
      | truncated _ m' hm' hmod' r' hr' =>
          obtain rfl := hm.eq_of_modEq hwidth hm' (hmod.trans hmod'.symm)
          exact congrArg Except.ok (hr.unique hr')
      | rejected hreject => cases hpolicy.symm.trans hreject
  | rejected hpolicy hunfit text htext =>
      cases h' with
      | fits hn => exact absurd hn hunfit
      | truncated htruncate => cases hpolicy.symm.trans htruncate
      | rejected _ _ text' htext' =>
          have hsame : text = text' := String.toList_inj.1
            ((Decimal.canonical_iff.1 htext).trans (Decimal.canonical_iff.1 htext').symm)
          rw [hsame]

theorem coerce_eq_iff_narrows (hk : k.width? = some width) (hv : v.toInt? = some n) :
    coerce policy index k v = result ↔ Narrows policy index k width n result := by
  constructor
  · rintro rfl
    exact narrows_coerce hk hv policy index
  · exact (narrows_coerce hk hv policy index).unique (Kind.width_pos hk)

/-- A number which fits is coerced to the operand which stands for it. -/
theorem coerce_of_stands {r : Operand} (hk : k.width? = some width) (hv : v.toInt? = some n)
    (hn : Signed width n) (hr : r.Stands k n) (policy : OverflowPolicy) (index : Nat) :
    coerce policy index k v = .ok r :=
  (coerce_eq_iff_narrows hk hv).2 (.fits hn r hr)

/-- Where numbers are truncated only their remainders count. -/
theorem Narrows.congr (h : Narrows .truncate index k width m result)
    (hmod : m ≡ n [ZMOD 2 ^ width]) : Narrows .truncate index k width n result := by
  cases h with
  | fits hm r hr => exact .truncated rfl m hm hmod r hr
  | truncated _ m' hm' hmod' r hr => exact .truncated rfl m' hm' (hmod'.trans hmod) r hr
  | rejected hpolicy => cases hpolicy

/-- Where numbers are truncated they are never refused. -/
theorem Narrows.exists_stands (h : Narrows .truncate index k width n result) :
    ∃ r m, result = .ok r ∧ r.Stands k m ∧ m ≡ n [ZMOD 2 ^ width] := by
  cases h with
  | fits _ r hr => exact ⟨r, n, rfl, hr, .refl n⟩
  | truncated _ m _ hmod r hr => exact ⟨r, m, rfl, hr, hmod⟩
  | rejected hpolicy => cases hpolicy

end Narrowing

section Table

variable {policy : OverflowPolicy} {index : Nat} {k : Kind} {v : Value}
  {result : Except CallError Operand}

/-- An integer does not go to any other kind. -/
theorem coerce_integer_mismatch {n : Int} (hk : k.width? = none) (hv : v.toInt? = some n) :
    coerce policy index k v = .error (.typeMismatch index k v.typeName) := by
  cases k <;> cases hk <;> cases v <;> cases hv <;> rfl

/-- A float or a reference goes to one kind only. -/
theorem coerce_operand_mismatch {r : Operand} (hnumber : r.toValue.toInt? = none)
    (hk : k ≠ r.kind) :
    coerce policy index k r.toValue = .error (.typeMismatch index k r.toValue.typeName) := by
  cases r <;> cases hnumber <;> cases k <;> first | rfl | exact absurd rfl hk

theorem coerced_coerce (policy : OverflowPolicy) (index : Nat) (k : Kind) (v : Value) :
    Coerced policy index k v (coerce policy index k v) := by
  cases hv : v.toInt? with
  | some n =>
      cases hk : k.width? with
      | some width => exact .integer k v width n hk hv _ (narrows_coerce hk hv policy index)
      | none =>
          rw [coerce_integer_mismatch hk hv]
          exact .integerMismatch k v n hk hv
  | none =>
      cases v with
      | f32 bits =>
          by_cases hk : k = .f32
          · subst hk
            exact .f32 bits
          · exact coerce_operand_mismatch (r := .f32 bits) rfl hk ▸ .f32Mismatch k bits hk
      | f64 bits =>
          by_cases hk : k = .f64
          · subst hk
            exact .f64 bits
          · exact coerce_operand_mismatch (r := .f64 bits) rfl hk ▸ .f64Mismatch k bits hk
      | ref g =>
          by_cases hk : k = .ref
          · subst hk
            exact .ref g
          · exact coerce_operand_mismatch (r := .ref g) rfl hk ▸ .refMismatch k g hk
      | bool b => exact .bool k b
      | string s => exact .string k s
      | _ => cases hv

theorem Coerced.coerce_eq (h : Coerced policy index k v result) :
    coerce policy index k v = result := by
  cases h with
  | integer k v width n hk hv result hresult => exact (coerce_eq_iff_narrows hk hv).2 hresult
  | f32 bits => rfl
  | f64 bits => rfl
  | ref g => rfl
  | bool k b => rfl
  | string k s => rfl
  | integerMismatch k v n hk hv => exact coerce_integer_mismatch hk hv
  | f32Mismatch k bits hk => exact coerce_operand_mismatch (r := .f32 bits) rfl hk
  | f64Mismatch k bits hk => exact coerce_operand_mismatch (r := .f64 bits) rfl hk
  | refMismatch k g hk => exact coerce_operand_mismatch (r := .ref g) rfl hk

/-- Coercion comes to what becomes of a value, and to nothing else. -/
theorem coerce_eq_iff : coerce policy index k v = result ↔ Coerced policy index k v result := by
  constructor
  · rintro rfl
    exact coerced_coerce policy index k v
  · exact Coerced.coerce_eq

/-- What is truncated twice comes to the same as what is truncated once, to the narrower width. -/
theorem coerce_coerce_truncate {n : Int} (hv : v.toInt? = some n) (index : Nat) :
    ∃ r, coerce .truncate index .i64 v = .ok r ∧
      coerce .truncate index .i32 r.toValue = coerce .truncate index .i32 v := by
  obtain ⟨r, m, hr, hstands, hmod⟩ :=
    (narrows_coerce (k := .i64) rfl hv .truncate index).exists_stands
  refine ⟨r, hr, ?_⟩
  have hdvd : (2 : Int) ^ 32 ∣ 2 ^ 64 := by decide
  have hnarrow := narrows_coerce (k := .i32) rfl hstands.number .truncate index
  exact ((coerce_eq_iff_narrows (k := .i32) rfl hv).2 (hnarrow.congr (hmod.of_dvd hdvd))).symm

end Table

/-- Coercion depends on the number which an integer stands for and not on its type, and on the type
only where there is no number.

* It comes to what `Coerced` says and to nothing else.
* Integers which stand for the same number are coerced alike to an integer kind.
* Truncating an integer to 64 bits changes nothing about its truncation to 32 bits. -/
theorem coerce_by_number (policy : OverflowPolicy) (index : Nat) (k : Kind) (v : Value) :
    (∀ result, coerce policy index k v = result ↔ Coerced policy index k v result) ∧
      (∀ w n, k.width? ≠ none → v.toInt? = some n → w.toInt? = some n →
        coerce policy index k w = coerce policy index k v) ∧
      ∀ n, v.toInt? = some n → ∃ r, coerce .truncate index .i64 v = .ok r ∧
        coerce .truncate index .i32 r.toValue = coerce .truncate index .i32 v := by
  refine ⟨fun _ => coerce_eq_iff, ?_, fun _ hv => coerce_coerce_truncate hv index⟩
  intro w n hk hv hw
  obtain ⟨width, hwidth⟩ := Option.ne_none_iff_exists'.1 hk
  exact (coerce_eq_iff_narrows hwidth hw).2 (narrows_coerce hwidth hv policy index)

end WasmCall
