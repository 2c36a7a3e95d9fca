import Mathlib.Algebra.Group.Nat.Defs
import WasmCall.Decimal.Reading

/-!
# Digits which were written and are read

A natural is written with the fewest digits, and reading these gives it back.  Where a text goes on with
something else than a digit, exactly the digits are taken.
-/

namespace WasmCall.Decimal

theorem isDigit_toDigits (n : Nat) : ∀ c ∈ Nat.toDigits 10 n, c.isDigit = true :=
  fun _ hc => Nat.isDigit_of_mem_toDigits (by decide) (by decide) hc

theorem exists_cons_toDigits (n : Nat) :
    ∃ c cs, Nat.toDigits 10 n = c :: cs ∧ c.isDigit = true := by
  obtain ⟨c, cs, hcs⟩ := List.exists_cons_of_ne_nil (Nat.toDigits_ne_nil (n := n) (b := 10))
  exact ⟨c, cs, hcs, isDigit_toDigits n c (hcs ▸ List.mem_cons_self)⟩

/-- A negative integer is written with a dash. -/
theorem toList_negSucc (n : Nat) :
    (toString (Int.negSucc n)).toList = '-' :: Nat.toDigits 10 (n + 1) := by
  show ("-" ++ toString (n + 1)).toList = _
  rw [String.toList_append]
  exact congrArg ('-' :: ·) Nat.toList_repr

theorem isDigit_zeros (n : Nat) : ∀ c ∈ List.replicate n '0', c.isDigit = true := by
  intro c hc
  rw [List.eq_of_mem_replicate hc]
  rfl

theorem natOfDigits_eq_ofDigitChars (cs : List Char) :
    natOfDigits cs = Nat.ofDigitChars 10 cs 0 :=
  Nat.ofDigitChars_eq_foldl.symm

@[simp]
theorem natOfDigits_toDigits (n : Nat) : natOfDigits (Nat.toDigits 10 n) = n := by
  rw [natOfDigits_eq_ofDigitChars, Nat.ofDigitChars_ten_toDigits]

theorem natOfDigits_append (cs ds : List Char) :
    natOfDigits (cs ++ ds) = 10 ^ ds.length * natOfDigits cs + natOfDigits ds := by
  simp only [natOfDigits_eq_ofDigitChars]
  rw [Nat.ofDigitChars_append, Nat.ofDigitChars_eq_ofDigitChars_zero]

@[simp]
theorem natOfDigits_zeros (n : Nat) : natOfDigits (List.replicate n '0') = 0 := by
  rw [natOfDigits_eq_ofDigitChars, Nat.ofDigitChars_replicate_zero, Nat.mul_zero]

theorem natOfDigits_cons (c : Char) (cs : List Char) :
    natOfDigits (c :: cs) = 10 ^ cs.length * digitValue c + natOfDigits cs := by
  have hsingle : natOfDigits [c] = digitValue c := by simp [natOfDigits]
  rw [← List.singleton_append, natOfDigits_append, hsingle]

theorem digitValue_le {c : Char} (hc : c.isDigit = true) : digitValue c ≤ 9 := by
  have hbound : c.toNat ≤ 57 := (Char.isDigit_iff_toNat.1 hc).2
  show c.toNat - 48 ≤ 9
  omega

theorem digitValue_pos {c : Char} (hc : c.isDigit = true) (hne : c ≠ '0') : 0 < digitValue c := by
  have hbound : 48 ≤ c.toNat := (Char.isDigit_iff_toNat.1 hc).1
  have hcode : c.toNat ≠ 48 := fun h => hne (Char.toNat_inj.1 h)
  show 0 < c.toNat - 48
  omega

theorem natOfDigits_lt {cs : List Char} (hcs : ∀ c ∈ cs, c.isDigit = true) :
    natOfDigits cs < 10 ^ cs.length := by
  induction cs with
  | nil => decide
  | cons c cs ih =>
      have hrest := ih fun d hd => hcs d (List.mem_cons_of_mem _ hd)
      have hvalue := digitValue_le (hcs c List.mem_cons_self)
      calc
        natOfDigits (c :: cs) = 10 ^ cs.length * digitValue c + natOfDigits cs := natOfDigits_cons c cs
        _ < 10 ^ cs.length * digitValue c + 10 ^ cs.length := Nat.add_lt_add_left hrest _
        _ = 10 ^ cs.length * (digitValue c + 1) := (Nat.mul_succ _ _).symm
        _ ≤ 10 ^ cs.length * 10 := Nat.mul_le_mul_left _ (Nat.succ_le_succ hvalue)
        _ = 10 ^ (c :: cs).length := (Nat.pow_succ 10 cs.length).symm

/-- Digits without a zero in front stand for as large a number as their number allows. -/
theorem pow_le_natOfDigits {c : Char} {cs : List Char} (hc : c.isDigit = true) (hne : c ≠ '0') :
    10 ^ cs.length ≤ natOfDigits (c :: cs) :=
  calc
    10 ^ cs.length ≤ 10 ^ cs.length * digitValue c := Nat.le_mul_of_pos_right _ (digitValue_pos hc hne)
    _ ≤ natOfDigits (c :: cs) := by
      rw [natOfDigits_cons]
      exact Nat.le_add_right _ _

/-- Digits without a zero in front are as many as their number has. -/
theorem length_toDigits_natOfDigits {cs : List Char} (hcs : ∀ c ∈ cs, c.isDigit = true)
    (hnonempty : cs ≠ []) (hhead : cs.head? ≠ some '0') :
    (Nat.toDigits 10 (natOfDigits cs)).length = cs.length := by
  have hupper : (Nat.toDigits 10 (natOfDigits cs)).length ≤ cs.length :=
    (Nat.length_toDigits_le_iff (by decide) (List.length_pos_iff.2 hnonempty)).2
      (natOfDigits_lt hcs)
  cases cs with
  | nil => exact absurd rfl hnonempty
  | cons c cs =>
      have hne : c ≠ '0' := fun h => hhead (congrArg some h)
      have hlarge : 10 ^ cs.length ≤ natOfDigits (c :: cs) :=
        pow_le_natOfDigits (hcs c List.mem_cons_self) hne
      rcases Nat.lt_or_eq_of_le hupper with hfewer | heq
      · have hfewer : (Nat.toDigits 10 (natOfDigits (c :: cs))).length ≤ cs.length :=
          Nat.le_of_lt_succ hfewer
        have hpos : 0 < cs.length := Nat.lt_of_lt_of_le Nat.length_toDigits_pos hfewer
        have hsmall := (Nat.length_toDigits_le_iff (by decide) hpos).1 hfewer
        exact absurd hsmall (Nat.not_lt.2 hlarge)
      · exact heq

/-- Only the digits of zero begin with a zero. -/
theorem head_toDigits_ne {n : Nat} (hn : n ≠ 0) : (Nat.toDigits 10 n).head? ≠ some '0' := by
  induction n using Nat.strongRecOn with
  | ind n ih =>
      rw [Nat.toDigits_eq_if (by decide)]
      split
      · simpa using hn
      · have hshorter := ih (n / 10) (by omega) (by omega)
        cases hdigits : Nat.toDigits 10 (n / 10) with
        | nil => simp at hdigits
        | cons d ds => simpa [hdigits] using hshorter

/-- Something else than a digit follows, or nothing. -/
def NoDigit (rest : List Char) : Prop := ∀ c ∈ rest.head?, c.isDigit = false

theorem takeDigits_append {digits rest : List Char} (hdigits : ∀ c ∈ digits, c.isDigit = true)
    (hrest : NoDigit rest) : takeDigits (digits ++ rest) = (digits, rest) := by
  have hnone : rest.takeWhile Char.isDigit = [] ∧ rest.dropWhile Char.isDigit = rest := by
    cases rest with
    | nil => exact ⟨rfl, rfl⟩
    | cons c rest =>
        have hc : c.isDigit = false := hrest c rfl
        simp [hc]
  rw [takeDigits, List.takeWhile_append_of_pos hdigits, List.dropWhile_append_of_pos hdigits,
    hnone.1, hnone.2, List.append_nil]

theorem takeDigits_self {digits : List Char} (hdigits : ∀ c ∈ digits, c.isDigit = true) :
    takeDigits digits = (digits, []) := by
  have hend : NoDigit [] := fun _ h => nomatch h
  simpa using takeDigits_append hdigits hend

end WasmCall.Decimal
