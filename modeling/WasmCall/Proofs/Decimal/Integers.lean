import Mathlib.Data.List.Induction
import WasmCall.Proofs.Decimal.Digits

/-!
# Integers as texts

An integer has many texts: a sign may stand in front of a number which is not negative, and zeros may
stand in front of any.

* `Denotes`: a text stands for an integer, by its sign and the value of its digits.
* `Canonical`: nothing of the text could be left out.  Every integer has one text of this form, and it
  is the one which is written (`canonical_iff`).
-/

namespace WasmCall.Decimal

/-- One digit or more. -/
structure Digits (cs : List Char) : Prop where
  ne_nil : cs ≠ []
  isDigit : ∀ c ∈ cs, c.isDigit = true

/-- A text is digits, with one sign in front of them at most, and it stands for an integer. -/
inductive Denotes : List Char → Int → Prop
  | unsigned (cs : List Char) (hcs : Digits cs) : Denotes cs (natOfDigits cs)
  | plus (cs : List Char) (hcs : Digits cs) : Denotes ('+' :: cs) (natOfDigits cs)
  | minus (cs : List Char) (hcs : Digits cs) : Denotes ('-' :: cs) (-(natOfDigits cs : Int))

/-- A text stands for an integer, and there is neither a plus sign in it nor a zero in front of other
digits, nor a sign in front of zero. -/
inductive Canonical : List Char → Int → Prop
  | zero : Canonical ['0'] 0
  | positive (c : Char) (cs : List Char) (hcs : Digits (c :: cs)) (hc : c ≠ '0') :
      Canonical (c :: cs) (natOfDigits (c :: cs))
  | negative (c : Char) (cs : List Char) (hcs : Digits (c :: cs)) (hc : c ≠ '0') :
      Canonical ('-' :: c :: cs) (-(natOfDigits (c :: cs) : Int))

section Denotes

variable {cs : List Char} {n : Int}

theorem Digits.head_ne {c : Char} (h : Digits (c :: cs)) {d : Char} (hd : d.isDigit = false) :
    c ≠ d := by
  rintro rfl
  rw [h.isDigit c List.mem_cons_self] at hd
  cases hd

theorem denotes_minus_iff : Denotes ('-' :: cs) n ↔ Digits cs ∧ n = -(natOfDigits cs : Int) := by
  constructor
  · intro h
    cases h with
    | unsigned _ hcs => exact absurd rfl (hcs.head_ne (d := '-') (by decide))
    | minus _ hcs => exact ⟨hcs, rfl⟩
  · rintro ⟨hcs, rfl⟩
    exact .minus cs hcs

theorem denotes_plus_iff : Denotes ('+' :: cs) n ↔ Digits cs ∧ n = natOfDigits cs := by
  constructor
  · intro h
    cases h with
    | unsigned _ hcs => exact absurd rfl (hcs.head_ne (d := '+') (by decide))
    | plus _ hcs => exact ⟨hcs, rfl⟩
  · rintro ⟨hcs, rfl⟩
    exact .plus cs hcs

/-- Without a sign all of a text are digits. -/
theorem denotes_unsigned_iff (hminus : cs.head? ≠ some '-') (hplus : cs.head? ≠ some '+') :
    Denotes cs n ↔ Digits cs ∧ n = natOfDigits cs := by
  constructor
  · intro h
    cases h with
    | unsigned _ hcs => exact ⟨hcs, rfl⟩
    | plus => exact absurd rfl hplus
    | minus => exact absurd rfl hminus
  · rintro ⟨hcs, rfl⟩
    exact .unsigned cs hcs

/-- A text stands for one integer. -/
theorem Denotes.unique {m : Int} (h : Denotes cs n) (h' : Denotes cs m) : n = m := by
  cases h with
  | unsigned _ hcs =>
      cases h' with
      | unsigned => rfl
      | plus => exact absurd rfl (hcs.head_ne (d := '+') (by decide))
      | minus => exact absurd rfl (hcs.head_ne (d := '-') (by decide))
  | plus _ _ => exact (denotes_plus_iff.1 h').2.symm
  | minus _ _ => exact (denotes_minus_iff.1 h').2.symm

theorem Canonical.denotes (h : Canonical cs n) : Denotes cs n := by
  cases h with
  | zero => exact .unsigned ['0'] ⟨by decide, List.all_eq_true.1 rfl⟩
  | positive c cs hcs _ => exact .unsigned (c :: cs) hcs
  | negative c cs hcs _ => exact .minus (c :: cs) hcs

end Denotes

theorem digitChar_digitValue {c : Char} (hc : c.isDigit = true) :
    (digitValue c).digitChar = c := by
  have hleast : 48 ≤ c.toNat := (Char.isDigit_iff_toNat.1 hc).1
  have hvalue : digitValue c = c.toNat - 48 := rfl
  apply Char.toNat_inj.1
  rw [Nat.toNat_digitChar_of_lt_ten (Nat.lt_succ_of_le (digitValue_le hc)), hvalue]
  omega

/-- Digits without a zero in front stand for a positive number. -/
theorem Digits.natOfDigits_pos {c : Char} {cs : List Char} (hcs : Digits (c :: cs))
    (hc : c ≠ '0') : 0 < natOfDigits (c :: cs) :=
  Nat.lt_of_lt_of_le (Nat.pow_pos (by decide))
    (pow_le_natOfDigits (hcs.isDigit c List.mem_cons_self) hc)

/-- Digits without a zero in front are those which their number is written with. -/
theorem Digits.toDigits_natOfDigits {c : Char} {cs : List Char} (hcs : Digits (c :: cs))
    (hc : c ≠ '0') : Nat.toDigits 10 (natOfDigits (c :: cs)) = c :: cs := by
  have hone : ∀ d : Char, d.isDigit = true → Nat.toDigits 10 (digitValue d) = [d] := by
    intro d hd
    rw [Nat.toDigits_of_lt_base (Nat.lt_succ_of_le (digitValue_le hd)), digitChar_digitValue hd]
  have hlast : ∀ d : Char, natOfDigits [d] = digitValue d := by simp [natOfDigits]
  -- The last digit is the remainder, and those before it are the digits of the quotient.
  induction cs using List.reverseRecOn with
  | nil => rw [hlast, hone c (hcs.isDigit c List.mem_cons_self)]
  | append_singleton cs d ih =>
      have hfront : Digits (c :: cs) := by
        refine ⟨List.cons_ne_nil c cs, fun e he => hcs.isDigit e ?_⟩
        rw [← List.cons_append]
        exact List.mem_append_left _ he
      have hd : d.isDigit = true := hcs.isDigit d (by simp)
      calc
        Nat.toDigits 10 (natOfDigits (c :: (cs ++ [d])))
          = Nat.toDigits 10 (10 * natOfDigits (c :: cs) + digitValue d) := by
            rw [← List.cons_append, natOfDigits_append, hlast, List.length_singleton, pow_one]
        _ = Nat.toDigits 10 (natOfDigits (c :: cs)) ++ Nat.toDigits 10 (digitValue d) :=
            (Nat.toDigits_append_toDigits (by decide) (hfront.natOfDigits_pos hc)
              (Nat.lt_succ_of_le (digitValue_le hd))).symm
        _ = c :: (cs ++ [d]) := by rw [ih hfront, hone d hd, List.cons_append]

/-- The digits of a number which is not zero have no zero in front. -/
theorem exists_digits {n : Nat} (hn : n ≠ 0) :
    ∃ c cs, Nat.toDigits 10 n = c :: cs ∧ Digits (c :: cs) ∧ c ≠ '0' ∧
      natOfDigits (c :: cs) = n := by
  obtain ⟨c, cs, hcs, -⟩ := exists_cons_toDigits n
  have hhead := head_toDigits_ne hn
  rw [hcs] at hhead
  refine ⟨c, cs, hcs, ⟨List.cons_ne_nil c cs, hcs ▸ isDigit_toDigits n⟩,
    fun hc => hhead (congrArg some hc), ?_⟩
  rw [← hcs, natOfDigits_toDigits]

/-- An integer is written in the one text which is canonical for it. -/
theorem canonical_iff {cs : List Char} {z : Int} : Canonical cs z ↔ cs = (toString z).toList := by
  have hnatural : ∀ n : Nat, (toString (n : Int)).toList = Nat.toDigits 10 n :=
    fun _ => Nat.toList_repr
  constructor
  · intro h
    cases h with
    | zero => rfl
    | positive c cs hcs hc => rw [hnatural, hcs.toDigits_natOfDigits hc]
    | negative c cs hcs hc =>
        obtain ⟨m, hm⟩ := Nat.exists_eq_succ_of_ne_zero (Nat.pos_iff_ne_zero.1 (hcs.natOfDigits_pos hc))
        have hneg : -((natOfDigits (c :: cs) : Nat) : Int) = Int.negSucc m := by rw [hm]; rfl
        rw [hneg, toList_negSucc, ← Nat.succ_eq_add_one, ← hm, hcs.toDigits_natOfDigits hc]
  · rintro rfl
    cases z with
    | ofNat n =>
        by_cases hn : n = 0
        · rw [hn]
          exact .zero
        · obtain ⟨c, cs, hdigits, hcs, hc, hvalue⟩ := exists_digits hn
          have hcanonical := Canonical.positive c cs hcs hc
          rw [hvalue, ← hdigits, ← hnatural n] at hcanonical
          exact hcanonical
    | negSucc n =>
        obtain ⟨c, cs, hdigits, hcs, hc, hvalue⟩ := exists_digits (Nat.succ_ne_zero n)
        have hcanonical := Canonical.negative c cs hcs hc
        rw [hvalue, ← hdigits, Nat.succ_eq_add_one, ← toList_negSucc n] at hcanonical
        exact hcanonical

end WasmCall.Decimal
