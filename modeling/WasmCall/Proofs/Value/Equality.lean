import WasmCall.Proofs.Alike
import WasmCall.Proofs.Floating.Comparison
import WasmCall.Proofs.Value.Provenance

/-!
# Equality of values

Values, operands and results have an equality of their own, which is not that of Lean: it is symmetric
and transitive, but a value in which there is a NaN is not equal to itself.

* `PartialEquality`: such an equality, and for which values it is not reflexive.  It carries over from
  elements to lists (`PartialEquality.list`), and from a type to whatever is compared through it
  (`PartialEquality.comap`).
* `Value.Equals`: what it means for two values to be equal, case by case.
* `agrees_coerce_of_equal`: equal values cannot be told apart once they are coerced.
* `equality_laws`: all of this for values, operands and the results of calls, together with what
  equality tells about references.
-/

namespace WasmCall

open Floating

/-- An equality which is symmetric and transitive, and reflexive but for some values. -/
structure PartialEquality (α : Type) [BEq α] (irreflexive : α → Prop) : Prop where
  symm : ∀ a b : α, (a == b) = true → (b == a) = true
  trans : ∀ a b c : α, (a == b) = true → (b == c) = true → (a == c) = true
  self_iff : ∀ a : α, (a == a) = true ↔ ¬ irreflexive a

namespace PartialEquality

variable {α β : Type} [BEq α] [BEq β] {irreflexive : α → Prop}

/-- What is compared by a view has the equality of the view. -/
theorem comap (h : PartialEquality α irreflexive) (view : β → α)
    (hview : ∀ a b : β, (a == b) = (view a == view b)) :
    PartialEquality β fun a => irreflexive (view a) where
  symm := by
    intro a b hab
    rw [hview] at hab ⊢
    exact h.symm _ _ hab
  trans := by
    intro a b c hab hbc
    rw [hview] at hab hbc ⊢
    exact h.trans _ _ _ hab hbc
  self_iff := by
    intro a
    rw [hview]
    exact h.self_iff (view a)

/-- Lists are compared element by element. -/
theorem list (h : PartialEquality α irreflexive) :
    PartialEquality (List α) fun as => ∃ a ∈ as, irreflexive a where
  symm := by
    intro as
    induction as with
    | nil =>
        intro bs hab
        cases bs with
        | nil => rfl
        | cons b bs => cases hab
    | cons a as ih =>
        intro bs hab
        cases bs with
        | nil => cases hab
        | cons b bs =>
            rw [List.cons_beq_cons, Bool.and_eq_true] at hab ⊢
            exact ⟨h.symm a b hab.1, ih bs hab.2⟩
  trans := by
    intro as
    induction as with
    | nil =>
        intro bs cs hab hbc
        cases bs with
        | nil => exact hbc
        | cons b bs => cases hab
    | cons a as ih =>
        intro bs cs hab hbc
        cases bs with
        | nil => cases hab
        | cons b bs =>
            cases cs with
            | nil => cases hbc
            | cons c cs =>
                rw [List.cons_beq_cons, Bool.and_eq_true] at hab hbc ⊢
                exact ⟨h.trans a b c hab.1 hbc.1, ih bs cs hab.2 hbc.2⟩
  self_iff := by
    intro as
    induction as with
    | nil => simp
    | cons a as ih =>
        rw [List.cons_beq_cons, Bool.and_eq_true, h.self_iff, ih]
        simp

end PartialEquality

/-- A value is a float which reads as a NaN. -/
inductive Value.IsNaN : Value → Prop
  | f32 (bits : UInt32) (negative : Bool) (payload : Nat)
      (hbits : binary32.decode bits.toNat = .nan negative payload) : IsNaN (.f32 bits)
  | f64 (bits : UInt64) (negative : Bool) (payload : Nat)
      (hbits : binary64.decode bits.toNat = .nan negative payload) : IsNaN (.f64 bits)

/-- What it means for values to be equal: floats stand for the same number, references are the same,
and everything else is equal to itself. -/
inductive Value.Equals : Value → Value → Prop
  | plain (v : Value) (hf32 : v.asF32? = none) (hf64 : v.asF64? = none) (href : v.asRef? = none) :
      Equals v v
  | f32 (a b : UInt32) (x : Number) (ha : binary32.number? a.toNat = some x)
      (hb : binary32.number? b.toNat = some x) : Equals (.f32 a) (.f32 b)
  | f64 (a b : UInt64) (x : Number) (ha : binary64.number? a.toNat = some x)
      (hb : binary64.number? b.toNat = some x) : Equals (.f64 a) (.f64 b)
  | ref (a b : Handle) (hab : a.same b = true) : Equals (.ref a) (.ref b)

namespace Value

theorem equal_f32_iff (a b : UInt32) : binary32.equal a.toNat b.toNat = true ↔
    ∃ x, binary32.number? a.toNat = some x ∧ binary32.number? b.toNat = some x :=
  Format.equal_iff_number (by decide) a.toNat_lt b.toNat_lt

theorem equal_f64_iff (a b : UInt64) : binary64.equal a.toNat b.toNat = true ↔
    ∃ x, binary64.number? a.toNat = some x ∧ binary64.number? b.toNat = some x :=
  Format.equal_iff_number (by decide) a.toNat_lt b.toNat_lt

theorem equals_of_equal {a b : Value} (h : a.equal b = true) : a.Equals b := by
  revert h
  fun_cases Value.equal a b
  case case11 a b =>
    rw [equal_f32_iff]
    rintro ⟨x, ha, hb⟩
    exact .f32 a b x ha hb
  case case12 a b =>
    rw [equal_f64_iff]
    rintro ⟨x, ha, hb⟩
    exact .f64 a b x ha hb
  case case13 a b => exact .ref a b
  case case16 => exact nofun
  -- Integers, booleans and texts are compared as Lean does.
  all_goals
    intro h
    obtain rfl := eq_of_beq h
    exact .plain _ rfl rfl rfl

theorem equal_of_equals {a b : Value} (h : a.Equals b) : a.equal b = true := by
  cases h with
  | plain _ hf32 hf64 href =>
      cases a with
      | f32 bits => cases hf32
      | f64 bits => cases hf64
      | ref g => cases href
      | _ => exact beq_self_eq_true _
  | f32 a b x ha hb => exact (equal_f32_iff a b).2 ⟨x, ha, hb⟩
  | f64 a b x ha hb => exact (equal_f64_iff a b).2 ⟨x, ha, hb⟩
  | ref a b hab => exact hab

theorem equal_iff_equals (a b : Value) : (a == b) = true ↔ a.Equals b :=
  ⟨equals_of_equal, equal_of_equals⟩

theorem Equals.symm {a b : Value} (h : a.Equals b) : b.Equals a := by
  cases h with
  | plain _ hf32 hf64 href => exact .plain _ hf32 hf64 href
  | f32 a b x ha hb => exact .f32 b a x hb ha
  | f64 a b x ha hb => exact .f64 b a x hb ha
  | ref a b hab => exact .ref b a (b.same_comm a ▸ hab)

/-- What is equal to a float or to a reference is one as well, so the cases of two steps match. -/
theorem Equals.trans {a b c : Value} (hab : a.Equals b) (hbc : b.Equals c) : a.Equals c := by
  cases hab with
  | plain => exact hbc
  | f32 a b x ha hb =>
      cases hbc with
      | plain _ hf32 => cases hf32
      | f32 b c y hb' hc =>
          obtain rfl := Option.some.inj (hb.symm.trans hb')
          exact .f32 a c x ha hc
  | f64 a b x ha hb =>
      cases hbc with
      | plain _ _ hf64 => cases hf64
      | f64 b c y hb' hc =>
          obtain rfl := Option.some.inj (hb.symm.trans hb')
          exact .f64 a c x ha hc
  | ref a b hab =>
      cases hbc with
      | plain _ _ _ href => cases href
      | ref b c hbc => exact .ref a c (Handle.same_trans hab hbc)

/-- A value which is equal to itself is not a NaN. -/
theorem Equals.not_isNaN {v : Value} (h : v.Equals v) : ¬ v.IsNaN := by
  intro hnan
  cases hnan with
  | f32 bits negative payload hbits =>
      have hnone := (Format.number?_eq_none_iff_decode _ _).2 ⟨negative, payload, hbits⟩
      cases h with
      | plain _ hf32 => cases hf32
      | f32 _ _ x ha => cases hnone.symm.trans ha
  | f64 bits negative payload hbits =>
      have hnone := (Format.number?_eq_none_iff_decode _ _).2 ⟨negative, payload, hbits⟩
      cases h with
      | plain _ _ hf64 => cases hf64
      | f64 _ _ x ha => cases hnone.symm.trans ha

theorem equals_self_of_not_isNaN {v : Value} (h : ¬ v.IsNaN) : v.Equals v := by
  cases v with
  | f32 bits =>
      cases hx : binary32.number? bits.toNat with
      | some x => exact .f32 bits bits x hx hx
      | none =>
          obtain ⟨negative, payload, hbits⟩ := (Format.number?_eq_none_iff_decode _ _).1 hx
          exact absurd (.f32 bits negative payload hbits) h
  | f64 bits =>
      cases hx : binary64.number? bits.toNat with
      | some x => exact .f64 bits bits x hx hx
      | none =>
          obtain ⟨negative, payload, hbits⟩ := (Format.number?_eq_none_iff_decode _ _).1 hx
          exact absurd (.f64 bits negative payload hbits) h
  | ref g => exact .ref g g g.same_self
  | _ => exact .plain _ rfl rfl rfl

theorem partialEquality : PartialEquality Value Value.IsNaN where
  symm a b hab := by
    rw [equal_iff_equals] at hab ⊢
    exact hab.symm
  trans a b c hab hbc := by
    rw [equal_iff_equals] at hab hbc ⊢
    exact hab.trans hbc
  self_iff a := by
    rw [equal_iff_equals]
    exact ⟨Equals.not_isNaN, equals_self_of_not_isNaN⟩

end Value

/-- Operands are compared like the values which they become. -/
theorem Operand.partialEquality : PartialEquality Operand fun r => r.toValue.IsNaN :=
  Value.partialEquality.comap Operand.toValue fun a b => (Operand.equal_toValue a b).symm

namespace CallResult

/-- Results are equal if they are of the same shape and have equal values. -/
theorem equal_iff (a b : CallResult) :
    (a == b) = true ↔ a.shape = b.shape ∧ (a.toList == b.toList) = true := by
  have hvalues : ∀ v w : Value, v.equal w = (v == w) := fun _ _ => rfl
  change a.equal b = true ↔ a.shape = b.shape ∧ (a.toList == b.toList) = true
  cases a <;> cases b <;> simp [equal, shape, toList, hvalues]

/-- Results are compared like their values, and some value is not equal to itself if the result is
not. -/
theorem partialEquality : PartialEquality CallResult fun r => ∃ v ∈ r.toList, v.IsNaN where
  symm a b hab := by
    rw [equal_iff] at hab ⊢
    exact ⟨hab.1.symm, Value.partialEquality.list.symm _ _ hab.2⟩
  trans a b c hab hbc := by
    rw [equal_iff] at hab hbc ⊢
    exact ⟨hab.1.trans hbc.1, Value.partialEquality.list.trans _ _ _ hab.2 hbc.2⟩
  self_iff a := by
    rw [equal_iff, Value.partialEquality.list.self_iff]
    exact and_iff_right rfl

end CallResult

section Coercion

/-- Equal values are coerced to equal operands, or refused for the same reason. -/
theorem agrees_coerce_of_equal {a b : Value} (h : (a == b) = true) (policy : OverflowPolicy)
    (index : Nat) (kind : Kind) :
    Agrees (fun r s : Operand => (r == s) = true) (coerce policy index kind a)
      (coerce policy index kind b) := by
  cases (Value.equal_iff_equals a b).1 h with
  | plain =>
      cases hcoerce : coerce policy index kind a with
      | error e => exact .error e
      | ok r =>
          refine .ok r r ?_
          rcases coerce_eq_ok hcoerce with ⟨n, -, -, rfl⟩ | ⟨n, -, -, rfl⟩ | ⟨rfl, -⟩
          · exact beq_self_eq_true (Int32.ofInt n)
          · exact beq_self_eq_true (Int64.ofInt n)
          · exact (Operand.equal_toValue r r).symm.trans h
  -- Neither a float nor a reference is converted, and the error tells no more than the type.
  | f32 a b =>
      cases kind with
      | f32 => exact .ok _ _ h
      | _ => exact .error _
  | f64 a b =>
      cases kind with
      | f64 => exact .ok _ _ h
      | _ => exact .error _
  | ref a b =>
      cases kind with
      | ref => exact .ok _ _ h
      | _ => exact .error _

end Coercion

/-- What equality is for the values of the host, for operands and for the results of calls.

* It is symmetric and transitive, and reflexive where there is no NaN.
* References are equal if both are null or if they go back to one handle, however many payloads look
  alike.  Null is equal to null only.
* Equal values are coerced to equal operands or refused with one error, to any kind and by any policy.
* Operands are equal if and only if they are equal as values of the host. -/
theorem equality_laws :
    (PartialEquality Value Value.IsNaN ∧ PartialEquality Operand (fun r => r.toValue.IsNaN) ∧
      PartialEquality CallResult fun r => ∃ v ∈ r.toList, v.IsNaN) ∧
      (∀ supply acts handles s, Handle.Obtained supply acts handles s →
        ∀ (i j : Nat) (g g' : Handle), handles[i]? = some g → handles[j]? = some g' →
          ((g == g') = true ↔ (g = .null ∧ g' = .null) ∨ Handle.OfOneMake acts i j)) ∧
      (∀ g : Handle, (g == .null) = true ↔ g = .null) ∧
      (∀ a b : Value, (a == b) = true → ∀ policy index kind,
        Agrees (fun r s : Operand => (r == s) = true) (coerce policy index kind a)
          (coerce policy index kind b)) ∧
      ∀ a b : Operand, (a == b) = true ↔ (a.toValue == b.toValue) = true := by
  refine ⟨⟨Value.partialEquality, Operand.partialEquality, CallResult.partialEquality⟩,
    ?references, Handle.same_null_iff, ?coercion, ?operands⟩
  case references =>
    intro supply acts handles s hobtained i j g g' hg hg'
    exact hobtained.same_iff hg hg'
  case coercion =>
    intro a b hab policy index kind
    exact agrees_coerce_of_equal hab policy index kind
  case operands =>
    intro a b
    change a.equal b = true ↔ a.toValue.equal b.toValue = true
    rw [Operand.equal_toValue]

/-- Two handles for one text, a copy of the first one, null, and a copy of null. -/
def fiveActs : List Handle.Act :=
  [.make (.text "x"), .make (.text "x"), .copy 0, .null, .copy 3]

theorem obtained_fiveActs : Handle.Obtained .full fiveActs
    [.held 0 (.text "x"), .held 1 (.text "x"), .held 0 (.text "x"), .null, .null] ⟨2⟩ := by
  have hone : Handle.Obtained .full [.make (.text "x")] [.held 0 (.text "x")] ⟨1⟩ :=
    .act .start (.make _)
  have htwo : Handle.Obtained .full [.make (.text "x"), .make (.text "x")]
      [.held 0 (.text "x"), .held 1 (.text "x")] ⟨2⟩ :=
    .act hone (.make _)
  have hthree : Handle.Obtained .full [.make (.text "x"), .make (.text "x"), .copy 0]
      [.held 0 (.text "x"), .held 1 (.text "x"), .held 0 (.text "x")] ⟨2⟩ :=
    .act htwo (.copy 0 _ rfl)
  have hfour : Handle.Obtained .full [.make (.text "x"), .make (.text "x"), .copy 0, .null]
      [.held 0 (.text "x"), .held 1 (.text "x"), .held 0 (.text "x"), .null] ⟨2⟩ :=
    .act hthree .null
  exact .act hfour (.copy 3 _ rfl)

/-- Of three handles with equal payloads two come from one act, and the two zeros, which are different
patterns, are coerced to equal operands. -/
theorem equality_laws_five :
    Handle.Obtained .full fiveActs
        [.held 0 (.text "x"), .held 1 (.text "x"), .held 0 (.text "x"), .null, .null] ⟨2⟩ ∧
      Handle.OfOneMake fiveActs 0 2 ∧ ¬ Handle.OfOneMake fiveActs 0 1 ∧
      (Value.f64 0 == .f64 0x8000000000000000) = true ∧
      Agrees (fun r s : Operand => (r == s) = true) (coerce .reject 0 .f64 (.f64 0))
        (coerce .reject 0 .f64 (.f64 0x8000000000000000)) := by
  obtain ⟨-, hreferences, -, hcoercion, -⟩ := equality_laws
  have hcopy := hreferences _ _ _ _ obtained_fiveActs 0 2 _ _ rfl rfl
  have hother := hreferences _ _ _ _ obtained_fiveActs 0 1 _ _ rfl rfl
  have hzeros : (Value.f64 0 == .f64 0x8000000000000000) = true := by decide
  refine ⟨obtained_fiveActs, ?_, fun hone => ?_, hzeros, hcoercion _ _ hzeros .reject 0 .f64⟩
  · rcases hcopy.1 rfl with ⟨hnull, -⟩ | hone
    · cases hnull
    · exact hone
  · cases hother.2 (.inr hone)

end WasmCall
