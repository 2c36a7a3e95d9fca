import WasmCall.Proofs.Floating.Rounding

/-!
# What floats stand for

A pattern stands for an infinity or for a rational number, unless it is one of a NaN.  Patterns are
compared as patterns, but it is the numbers which are compared: every number has one pattern, but for
zero, which has two.

* `Datum.number?`: what a pattern stands for, once it is taken apart.
* `number?_eq_none_iff`, `number?_eq_zero_iff`: the patterns of a NaN and those of zero.
* `eq_of_number?`: the pattern of any other number.

Main statement: `equal_iff_number`, by which patterns are equal if and only if they stand for the same
number.
-/

namespace WasmCall.Floating

/-- What a float stands for: an infinity or a rational number. -/
inductive Number where
  | infinite (negative : Bool)
  | finite (value : Rat)

namespace Number

/-- A number with its sign. -/
def signed (negative : Bool) (value : Rat) : Number :=
  .finite (if negative then -value else value)

/-- The sign belongs to the number unless this is zero. -/
theorem signed_inj {s t : Bool} {p q : Rat} (hp : 0 < p) (hq : 0 < q) (h : signed s p = signed t q) :
    s = t ∧ p = q := by
  have hvalue : (if s then -p else p) = if t then -q else q := Number.finite.inj h
  cases s <;> cases t <;> simp only [Bool.false_eq_true, if_true, if_false] at hvalue
  · exact ⟨rfl, hvalue⟩
  · linarith
  · linarith
  · exact ⟨rfl, neg_injective hvalue⟩

theorem signed_eq_zero_iff (s : Bool) (p : Rat) : signed s p = .finite 0 ↔ p = 0 := by
  cases s <;> simp [signed]

end Number

/-- The number which a pattern stands for, unless it is a NaN. -/
def Datum.number? : Datum → Option Number
  | .nan _ _ => none
  | .infinite negative => some (.infinite negative)
  | .finite negative significand scale => some (.signed negative (significand * 2 ^ scale))

namespace Format

/-- The number which a pattern stands for. -/
def number? (f : Format) (bits : Nat) : Option Number :=
  (f.decode bits).number?

variable {f : Format} {a b bits significand : Nat} {scale : Int} {negative : Bool} {x : Number}

theorem Finite.signed_eq_zero_iff (h : f.Finite bits negative significand scale) :
    Number.signed negative (significand * 2 ^ scale) = .finite 0 ↔ f.magnitude bits = 0 := by
  have hpower : (2 : Rat) ^ scale ≠ 0 := zpow_ne_zero _ (by norm_num)
  rw [Number.signed_eq_zero_iff, mul_eq_zero_iff_right hpower, Nat.cast_eq_zero]
  constructor
  · rintro rfl
    exact h.magnitude_eq_zero
  · intro hzero
    have hparts := h.magnitude
    omega

/-- The magnitude of a number is found by rounding it, so it does not depend on the pattern. -/
theorem Finite.magnitude_inj {bits' significand' : Nat} {scale' : Int} {negative' : Bool}
    (h : f.Finite bits negative significand scale)
    (h' : f.Finite bits' negative' significand' scale') (hpos : significand ≠ 0)
    (hpos' : significand' ≠ 0)
    (hvalue : (significand : Rat) * 2 ^ scale = significand' * 2 ^ scale') :
    f.magnitude bits = f.magnitude bits' := by
  have hquotient := value_scaleBinary significand scale
  have hden : (scaleBinary significand scale).2 ≠ 0 := (Nat.two_pow_pos _).ne'
  rw [← h.roundMagnitude_eq hpos hden hquotient,
    h'.roundMagnitude_eq hpos' hden (hquotient.trans hvalue)]

theorem eq_of_sign_of_magnitude (ha : a < 2 * f.signBit) (hb : b < 2 * f.signBit)
    (hsign : f.isNegative a = f.isNegative b) (hmagnitude : f.magnitude a = f.magnitude b) : a = b := by
  rw [← withSign_magnitude ha, ← withSign_magnitude hb, hsign, hmagnitude]

theorem number?_eq_none_iff (f : Format) (bits : Nat) :
    f.number? bits = none ↔ f.isNaN bits = true := by
  unfold number?
  rcases f.decode_cases bits with
    ⟨payload, hdecode, hnan⟩ | ⟨hdecode, hinfinite⟩ | ⟨significand, scale, hdecode, hfinite⟩
  · rw [hdecode, hnan]
    exact iff_of_true rfl rfl
  · rw [hdecode, isNaN, hinfinite, decide_eq_true_eq]
    exact iff_of_false (Option.some_ne_none _) (lt_irrefl _)
  · rw [hdecode, hfinite.isNaN_eq_false]
    exact iff_of_false (Option.some_ne_none _) Bool.false_ne_true

/-- A pattern stands for no number if it reads as a NaN. -/
theorem number?_eq_none_iff_decode (f : Format) (bits : Nat) :
    f.number? bits = none ↔ ∃ negative payload, f.decode bits = .nan negative payload := by
  unfold number?
  cases f.decode bits with
  | nan negative payload => exact iff_of_true rfl ⟨negative, payload, rfl⟩
  | infinite negative => simp [Datum.number?]
  | finite negative significand scale => simp [Datum.number?]

theorem number?_eq_zero_iff (hinfinity : f.infinity ≠ 0) (bits : Nat) :
    f.number? bits = some (.finite 0) ↔ f.magnitude bits = 0 := by
  unfold number?
  rcases f.decode_cases bits with
    ⟨payload, hdecode, hnan⟩ | ⟨hdecode, hinfinite⟩ | ⟨significand, scale, hdecode, hfinite⟩
  · rw [isNaN, decide_eq_true_eq] at hnan
    rw [hdecode]
    exact iff_of_false (Option.some_ne_none _).symm (Nat.ne_zero_of_lt hnan)
  · rw [hdecode, hinfinite]
    simpa [Datum.number?] using hinfinity
  · rw [hdecode, ← hfinite.signed_eq_zero_iff]
    exact Option.some_inj

/-- What stands for a number is infinite or finite. -/
theorem cases_of_number? (hx : f.number? bits = some x) :
    (x = .infinite (f.isNegative bits) ∧ f.magnitude bits = f.infinity) ∨
      ∃ (significand : Nat) (scale : Int),
        x = .signed (f.isNegative bits) (significand * 2 ^ scale) ∧
          f.Finite bits (f.isNegative bits) significand scale := by
  unfold number? at hx
  rcases f.decode_cases bits with
    ⟨payload, hdecode, -⟩ | ⟨hdecode, hinfinite⟩ | ⟨significand, scale, hdecode, hfinite⟩
  · rw [hdecode] at hx
    cases hx
  · rw [hdecode] at hx
    exact .inl ⟨(Option.some.inj hx).symm, hinfinite⟩
  · rw [hdecode] at hx
    exact .inr ⟨significand, scale, (Option.some.inj hx).symm, hfinite⟩

/-- The value of a finite pattern which is not zero is positive, apart from its sign. -/
theorem value_pos_of_signed_ne_zero (hne : Number.signed negative (significand * 2 ^ scale) ≠ .finite 0) :
    significand ≠ 0 ∧ (0 : Rat) < significand * 2 ^ scale := by
  have hpower : (0 : Rat) < 2 ^ scale := zpow_pos (by norm_num) _
  have hpos : significand ≠ 0 := by
    rintro rfl
    exact hne ((Number.signed_eq_zero_iff _ _).2 (by simp))
  exact ⟨hpos, mul_pos (Nat.cast_pos.2 (Nat.pos_of_ne_zero hpos)) hpower⟩

/-- A number other than zero has one pattern. -/
theorem eq_of_number? (ha : a < 2 * f.signBit) (hb : b < 2 * f.signBit)
    (hxa : f.number? a = some x) (hxb : f.number? b = some x) (hne : x ≠ .finite 0) : a = b := by
  rcases cases_of_number? hxa with ⟨rfl, hinfinite⟩ | ⟨significand, scale, rfl, hfinite⟩ <;>
    rcases cases_of_number? hxb with ⟨hx, hinfinite'⟩ | ⟨significand', scale', hx, hfinite'⟩
  · exact eq_of_sign_of_magnitude ha hb (Number.infinite.inj hx) (hinfinite.trans hinfinite'.symm)
  · cases hx
  · cases hx
  · obtain ⟨hpos, hvalue⟩ := value_pos_of_signed_ne_zero hne
    rw [hx] at hne
    obtain ⟨hpos', hvalue'⟩ := value_pos_of_signed_ne_zero hne
    obtain ⟨hsign, hsame⟩ := Number.signed_inj hvalue hvalue' hx
    exact eq_of_sign_of_magnitude ha hb hsign
      (hfinite.magnitude_inj hfinite' hpos hpos' hsame)

/-- Patterns are equal if and only if they stand for the same number. -/
theorem equal_iff_number (hinfinity : f.infinity ≠ 0) (ha : a < 2 * f.signBit)
    (hb : b < 2 * f.signBit) :
    f.equal a b = true ↔ ∃ x, f.number? a = some x ∧ f.number? b = some x := by
  have hequal : f.equal a b = true ↔ f.isNaN a = false ∧ f.isNaN b = false ∧
      (a = b ∨ f.magnitude a = 0 ∧ f.magnitude b = 0) := by
    simp [equal, and_assoc]
  rw [hequal]
  constructor
  · rintro ⟨hnan, -, rfl | ⟨hzero, hzero'⟩⟩
    · obtain ⟨x, hx⟩ := Option.ne_none_iff_exists'.1 fun hnone =>
        absurd ((f.number?_eq_none_iff a).1 hnone) (by rw [hnan]; decide)
      exact ⟨x, hx, hx⟩
    · exact ⟨.finite 0, (number?_eq_zero_iff hinfinity a).2 hzero,
        (number?_eq_zero_iff hinfinity b).2 hzero'⟩
  · rintro ⟨x, hxa, hxb⟩
    have hnan : ∀ {bits}, f.number? bits = some x → f.isNaN bits = false := by
      intro bits hx
      rw [← Bool.not_eq_true, ← number?_eq_none_iff, hx]
      exact Option.some_ne_none x
    refine ⟨hnan hxa, hnan hxb, ?_⟩
    by_cases hne : x = .finite 0
    · subst hne
      exact .inr ⟨(number?_eq_zero_iff hinfinity a).1 hxa, (number?_eq_zero_iff hinfinity b).1 hxb⟩
    · exact .inl (eq_of_number? ha hb hxa hxb hne)

end Format

end WasmCall.Floating
