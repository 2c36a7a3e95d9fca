import Mathlib.Tactic.Ring
import WasmCall.Argument
import WasmCall.Proofs.Coercion.Numbers

/-!
# Integers as arguments

An argument for an integer kind is read as an integer of 64 bits, with a sign if it fits and without
one otherwise.  Digits are read one by one and the reading stops where it would go beyond 64 bits, so
it comes to an end exactly for the numbers which fit (`readDigits_eq_ok_iff`).

* `Carries`: a number as a value.  There is one for each number of 64 bits (`InRange.exists_carries`,
  `Carries.unique`).
* `readInteger_eq_ok_iff`: a text is read if it stands for a number in the range of the two types
  together, and then as this number.
* `word_of_text`: from the text to the operand, under both policies.  Nothing is lost on the way
  through 64 bits, for either width.
-/

namespace WasmCall.Argument

open Decimal

/-- An integer argument carries a number: with a sign if the number fits, and without one otherwise. -/
inductive Carries : Value → Int → Prop
  | signed (m : Int64) (n : Int) (hn : n < 2 ^ 63) (hm : m.toInt = n) : Carries (.i64 m) n
  | unsigned (m : UInt64) (n : Int) (hn : 2 ^ 63 ≤ n) (hm : (m.toNat : Int) = n) :
      Carries (.u64 m) n

/-- The number is one of the signed or of the unsigned integers of 64 bits. -/
def InRange (n : Int) : Prop := -2 ^ 63 ≤ n ∧ n ≤ 2 ^ 64 - 1

section Numbers

variable {v w : Value} {n : Int}

theorem Carries.toInt?_eq (h : Carries v n) : v.toInt? = some n := by
  cases h with
  | signed m n _ hm => exact congrArg some hm
  | unsigned m n _ hm => exact congrArg some hm

/-- A number is carried by one value. -/
theorem Carries.unique (h : Carries v n) (h' : Carries w n) : v = w := by
  cases h with
  | signed m n hn hm =>
      cases h' with
      | signed m' _ _ hm' => exact congrArg Value.i64 (Int64.toInt_inj.1 (hm.trans hm'.symm))
      | unsigned _ _ hn' => exact absurd hn (Int.not_lt.2 hn')
  | unsigned m n hn hm =>
      cases h' with
      | signed _ _ hn' => exact absurd hn' (Int.not_lt.2 hn)
      | unsigned m' _ _ hm' =>
          exact congrArg Value.u64 (UInt64.toNat_inj.1 (Int.ofNat_inj.1 (hm.trans hm'.symm)))

theorem carries_ofInt (hleast : -2 ^ 63 ≤ n) (hn : n < 2 ^ 63) :
    Carries (.i64 (Int64.ofInt n)) n :=
  .signed _ n hn (Int64.toInt_ofInt_of_le hleast hn)

theorem InRange.exists_carries (h : InRange n) : ∃ v, Carries v n := by
  obtain ⟨hleast, hmost⟩ := h
  rcases Int.lt_or_le n (2 ^ 63) with hn | hn
  · exact ⟨_, carries_ofInt hleast hn⟩
  · obtain ⟨m, rfl⟩ := Int.eq_ofNat_of_zero_le (by omega : 0 ≤ n)
    have hm : m < 2 ^ 64 := by omega
    exact ⟨_, .unsigned (UInt64.ofNat m) m hn (congrArg Nat.cast (UInt64.toNat_ofNat_of_lt' hm))⟩

/-- A natural without a sign is carried by the value which it is read as. -/
theorem carries_natural {m : Nat} (hm : m < 2 ^ 64) :
    Carries (if m < pow2 63 then .i64 (Int64.ofInt m) else .u64 (UInt64.ofNat m)) m := by
  have hpow : pow2 63 = 2 ^ 63 := rfl
  split
  · exact carries_ofInt (by omega) (by omega)
  · exact .unsigned _ _ (by omega) (congrArg Nat.cast (UInt64.toNat_ofNat_of_lt' hm))

end Numbers

section Reading

variable {cs : List Char} {m acc : Nat} {v : Value}

/-- Digits are read as their number if it fits into 64 bits, and not at all otherwise. -/
theorem readDigits_eq_ok_iff (hacc : acc < 2 ^ 64) :
    readDigits acc cs = .ok m ↔ (∀ c ∈ cs, c.isDigit = true) ∧
      m = 10 ^ cs.length * acc + natOfDigits cs ∧ m < 2 ^ 64 := by
  induction cs generalizing acc with
  | nil =>
      simp only [readDigits, natOfDigits, Except.ok.injEq, List.foldl_nil, List.length_nil, pow_zero,
        one_mul, add_zero]
      constructor
      · rintro rfl
        exact ⟨by simp, rfl, hacc⟩
      · rintro ⟨-, rfl, -⟩
        rfl
  | cons c cs ih =>
      have hvalue : 10 ^ (c :: cs).length * acc + natOfDigits (c :: cs) =
          10 ^ cs.length * (10 * acc + digitValue c) + natOfDigits cs := by
        rw [natOfDigits_cons, List.length_cons, pow_succ]
        ring
      rw [readDigits, hvalue, List.forall_mem_cons]
      by_cases hc : c.isDigit = true
      · rw [if_pos hc]
        by_cases hnext : 10 * acc + digitValue c < pow2 64
        · simp only [if_pos hnext, ih hnext, hc, true_and]
        · -- The number only grows with the digits which follow.
          have hgrows : 10 * acc + digitValue c ≤
              10 ^ cs.length * (10 * acc + digitValue c) + natOfDigits cs :=
            le_add_right (Nat.le_mul_of_pos_left _ (Nat.pow_pos (by decide)))
          simp only [if_neg hnext]
          constructor
          · intro h
            cases h
          · rintro ⟨-, rfl, hm⟩
            exact absurd (lt_of_le_of_lt hgrows hm) hnext
      · rw [if_neg hc]
        simp [hc]

theorem readNatural_eq_ok_iff :
    readNatural cs = .ok m ↔ Digits cs ∧ m = natOfDigits cs ∧ m < 2 ^ 64 := by
  cases cs with
  | nil =>
      constructor
      · intro h
        cases h
      · rintro ⟨hcs, -⟩
        exact absurd rfl hcs.ne_nil
  | cons c cs =>
      have hread : readNatural (c :: cs) = readDigits 0 (c :: cs) := rfl
      rw [hread, readDigits_eq_ok_iff (by decide), mul_zero, zero_add]
      constructor
      · rintro ⟨hdigits, hm⟩
        exact ⟨⟨List.cons_ne_nil c cs, hdigits⟩, hm⟩
      · rintro ⟨hcs, hm⟩
        exact ⟨hcs.isDigit, hm⟩

/-- Digits without a sign of their own are read as the number which they stand for. -/
theorem readUnsigned_eq_ok_iff :
    ((readNatural cs).bind fun m =>
        .ok (if m < pow2 63 then .i64 (Int64.ofInt m) else .u64 (UInt64.ofNat m))) = .ok v ↔
      ∃ n : Int, (Digits cs ∧ n = natOfDigits cs) ∧ InRange n ∧ Carries v n := by
  constructor
  · intro h
    cases hread : readNatural cs with
    | error e => rw [hread] at h; cases h
    | ok m =>
        rw [hread] at h
        cases h
        obtain ⟨hcs, rfl, hm⟩ := readNatural_eq_ok_iff.1 hread
        refine ⟨natOfDigits cs, ⟨hcs, rfl⟩, ?_, carries_natural hm⟩
        constructor <;> omega
  · rintro ⟨n, ⟨hcs, rfl⟩, ⟨-, hmost⟩, hv⟩
    have hm : natOfDigits cs < 2 ^ 64 := by omega
    rw [readNatural_eq_ok_iff.2 ⟨hcs, rfl, hm⟩]
    exact congrArg Except.ok ((carries_natural hm).unique hv)

/-- Digits behind a dash are read as the negative of the number which they stand for. -/
theorem readNegative_eq_ok_iff :
    readInteger ('-' :: cs) = .ok v ↔
      ∃ n : Int, (Digits cs ∧ n = -(natOfDigits cs : Int)) ∧ InRange n ∧ Carries v n := by
  have hpow : pow2 63 = 2 ^ 63 := rfl
  rw [readInteger]
  constructor
  · intro h
    cases hread : readNatural cs with
    | error e => simp [hread] at h
    | ok m =>
        simp only [hread] at h
        split at h
        · cases h
          obtain ⟨hcs, rfl, -⟩ := readNatural_eq_ok_iff.1 hread
          refine ⟨_, ⟨hcs, rfl⟩, ?_, carries_ofInt (by omega) (by omega)⟩
          constructor <;> omega
        · cases h
  · rintro ⟨n, ⟨hcs, rfl⟩, ⟨hleast, -⟩, hv⟩
    have hm : natOfDigits cs ≤ pow2 63 := by omega
    rw [readNatural_eq_ok_iff.2 ⟨hcs, rfl, by omega⟩]
    simp only [if_pos hm]
    exact congrArg Except.ok ((carries_ofInt hleast (by omega)).unique hv)

/-- A text is read if it stands for a number of 64 bits, and then as this number. -/
theorem readInteger_eq_ok_iff :
    readInteger cs = .ok v ↔ ∃ n, Denotes cs n ∧ InRange n ∧ Carries v n := by
  by_cases hempty : cs = []
  · subst hempty
    constructor
    · intro h
      cases h
    · rintro ⟨n, hn, -⟩
      cases hn with
      | unsigned _ hcs => exact absurd rfl hcs.ne_nil
  by_cases hminus : cs.head? = some '-'
  · obtain ⟨ds, rfl⟩ := List.head?_eq_some_iff.1 hminus
    simp only [readNegative_eq_ok_iff, denotes_minus_iff]
  · by_cases hplus : cs.head? = some '+'
    · obtain ⟨ds, rfl⟩ := List.head?_eq_some_iff.1 hplus
      simp only [denotes_plus_iff]
      exact readUnsigned_eq_ok_iff
    · have hread : readInteger cs = (readNatural cs).bind fun m =>
          .ok (if m < pow2 63 then .i64 (Int64.ofInt m) else .u64 (UInt64.ofNat m)) := by
        unfold readInteger
        split
        · exact absurd rfl hempty
        · exact absurd rfl hminus
        · rw [if_neg hplus]
          rfl
      rw [hread]
      simp only [denotes_unsigned_iff hminus hplus]
      exact readUnsigned_eq_ok_iff

/-- For both integer kinds a text is read in the same way. -/
theorem read_eq_ok_iff {k : Kind} {width : Nat} (hk : k.width? = some width) {text : String} :
    read k text = .ok v ↔ readInteger text.toList = .ok v := by
  have hsame : read k text = (readInteger text.toList).mapError .notInteger := by
    cases k with
    | i32 => rfl
    | i64 => rfl
    | _ => cases hk
  rw [hsame]
  cases readInteger text.toList <;> simp [Except.mapError]

end Reading

/-- From the text of an integer to the operand.

* A text is read if it is digits, with one sign at most, which stand for a number of 64 bits.
* The value carries the number which the text stands for, and it is this number which is narrowed to
  any width, under either policy.
* There is one signed integer of the width which the number can be truncated to. -/
theorem word_of_text {k : Kind} {width : Nat} (hk : k.width? = some width) (text : String) :
    ((∃ v, read k text = .ok v) ↔ ∃ n, Denotes text.toList n ∧ InRange n) ∧
      ∀ v n, read k text = .ok v → Denotes text.toList n →
        Carries v n ∧ ∀ l w, l.width? = some w →
          (∀ policy index result, coerce policy index l v = result ↔
            Narrows policy index l w n result) ∧
          ∃! m, Signed w m ∧ m ≡ n [ZMOD 2 ^ w] := by
  constructor
  · constructor
    · rintro ⟨v, hv⟩
      obtain ⟨n, hn, hrange, -⟩ := readInteger_eq_ok_iff.1 ((read_eq_ok_iff hk).1 hv)
      exact ⟨n, hn, hrange⟩
    · rintro ⟨n, hn, hrange⟩
      obtain ⟨v, hv⟩ := hrange.exists_carries
      exact ⟨v, (read_eq_ok_iff hk).2 (readInteger_eq_ok_iff.2 ⟨n, hn, hrange, hv⟩)⟩
  · intro v n hread hn
    obtain ⟨m, hm, -, hv⟩ := readInteger_eq_ok_iff.1 ((read_eq_ok_iff hk).1 hread)
    obtain rfl := hm.unique hn
    refine ⟨hv, fun l w hl => ⟨?_, existsUnique_signed (Kind.width_pos hl) m⟩⟩
    exact fun _ _ _ => coerce_eq_iff_narrows hl hv.toInt?_eq

theorem word_of_long : Kind.width? .i32 = some 32 ∧
    read .i32 "+0018446744073709551615" = .ok (.u64 18446744073709551615) ∧
    Denotes "+0018446744073709551615".toList 18446744073709551615 ∧
    Carries (.u64 18446744073709551615) 18446744073709551615 ∧
    coerce .reject 0 .i32 (.u64 18446744073709551615) =
      .error (.argumentOutOfRange 0 .i32 "18446744073709551615") ∧
    coerce .truncate 0 .i32 (.u64 18446744073709551615) = .ok (.i32 (-1)) := by
  have hread : read .i32 "+0018446744073709551615" = .ok (.u64 18446744073709551615) := rfl
  have htext : Denotes "+0018446744073709551615".toList 18446744073709551615 :=
    .plus "0018446744073709551615".toList ⟨by decide, List.all_eq_true.1 rfl⟩
  obtain ⟨hcarries, hword⟩ := (word_of_text (k := .i32) rfl _).2 _ _ hread htext
  have hnarrow := (hword .i32 32 rfl).1
  refine ⟨rfl, hread, htext, hcarries, ?_, ?_⟩
  · rw [hnarrow]
    refine .rejected rfl (fun h => absurd h.2 (by decide)) _ ?_
    exact .positive '1' "8446744073709551615".toList ⟨by decide, List.all_eq_true.1 rfl⟩
      (by decide)
  · rw [hnarrow]
    exact .truncated rfl (-1) ⟨by decide, by decide⟩ (by decide) _ ⟨rfl, rfl⟩

end WasmCall.Argument
