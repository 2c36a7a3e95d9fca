import WasmCall.Coercion
import WasmCall.Proofs.Traversal

/-!
# Coerced arguments

What callers of `coerce` rely on, whatever the policy:

* an operand has the kind which was asked for (`kind_of_coerce`),
* a reference stays the handle which it is (`eq_ref_of_coerce`),
* an error blames the argument (`isArgumentError_of_coerce`), and never says that a reference is
  foreign (`coerce_ne_foreign`).

An integer is coerced by its number, whatever its type (`coerce_of_toInt?`).  A list of arguments is
coerced by a traversal (`coerceFrom_eq_traverseFrom`).
-/

namespace WasmCall

theorem coerceInt_eq_ok {α : Type} {width : Nat} {kind : Kind} {ofInt : Int → α}
    {policy : OverflowPolicy} {index : Nat} {n : Int} {a : α}
    (h : coerceInt width kind ofInt policy index n = .ok a) : a = ofInt n := by
  unfold coerceInt at h
  split at h
  · cases h
    rfl
  · cases h

theorem coerceInt_eq_error {α : Type} {width : Nat} {kind : Kind} {ofInt : Int → α}
    {policy : OverflowPolicy} {index : Nat} {n : Int} {e : CallError}
    (h : coerceInt width kind ofInt policy index n = .error e) :
    e = .argumentOutOfRange index kind (toString n) := by
  unfold coerceInt at h
  split at h
  · cases h
  · cases h
    rfl

/-- An integer which fits is coerced under any policy. -/
theorem coerceInt_of_fits {α : Type} {width : Nat} {n : Int} (h : fitsSigned width n = true)
    (kind : Kind) (ofInt : Int → α) (policy : OverflowPolicy) (index : Nat) :
    coerceInt width kind ofInt policy index n = .ok (ofInt n) := by
  rw [coerceInt, h, Bool.true_or, if_pos rfl]

/-- An integer of any type is coerced to an integer kind by its number. -/
theorem coerce_of_toInt? {v : Value} {n : Int} (hv : v.toInt? = some n) (policy : OverflowPolicy)
    (index : Nat) :
    coerce policy index .i32 v = .i32 <$> coerceInt 32 .i32 Int32.ofInt policy index n ∧
      coerce policy index .i64 v = .i64 <$> coerceInt 64 .i64 Int64.ofInt policy index n := by
  cases v <;> cases hv <;> exact ⟨rfl, rfl⟩

/-- How a coercion may end: with an integer which is narrowed, with what was given, or with one of
two errors. -/
theorem coerce_cases (policy : OverflowPolicy) (index : Nat) (kind : Kind) (value : Value) :
    (∃ n, value.toInt? = some n ∧ kind = .i32 ∧ coerce policy index kind value =
        .i32 <$> coerceInt 32 .i32 Int32.ofInt policy index n) ∨
    (∃ n, value.toInt? = some n ∧ kind = .i64 ∧ coerce policy index kind value =
        .i64 <$> coerceInt 64 .i64 Int64.ofInt policy index n) ∨
    (∃ r : Operand, value = r.toValue ∧ kind = r.kind ∧
        coerce policy index kind value = .ok r) ∨
    coerce policy index kind value = .error (.unsupportedArgumentType index value.typeName) ∨
    coerce policy index kind value = .error (.typeMismatch index kind value.typeName) := by
  unfold coerce
  -- Booleans and strings are refused before the kind is looked at.
  split
  · exact .inr (.inr (.inr (.inl rfl)))
  · exact .inr (.inr (.inr (.inl rfl)))
  · split
    · exact .inl ⟨_, ‹_›, rfl, rfl⟩
    · exact .inr (.inl ⟨_, ‹_›, rfl, rfl⟩)
    · exact .inr (.inr (.inl ⟨.f32 _, rfl, rfl, rfl⟩))
    · exact .inr (.inr (.inl ⟨.f64 _, rfl, rfl, rfl⟩))
    · exact .inr (.inr (.inl ⟨.ref _, rfl, rfl, rfl⟩))
    · exact .inr (.inr (.inr (.inr rfl)))

variable {policy : OverflowPolicy} {index : Nat} {kind : Kind} {value : Value}

/-- The operands which a coercion may give. -/
theorem coerce_eq_ok {r : Operand} (h : coerce policy index kind value = .ok r) :
    (∃ n, value.toInt? = some n ∧ kind = .i32 ∧ r = .i32 (Int32.ofInt n)) ∨
      (∃ n, value.toInt? = some n ∧ kind = .i64 ∧ r = .i64 (Int64.ofInt n)) ∨
      value = r.toValue ∧ kind = r.kind := by
  rcases coerce_cases policy index kind value with
    ⟨n, hvalue, rfl, hn⟩ | ⟨n, hvalue, rfl, hn⟩ | ⟨s, hvalue, hkind, hs⟩ | hbad | hbad
  · rw [hn] at h
    cases hint : coerceInt 32 .i32 Int32.ofInt policy index n with
    | error e => rw [hint] at h; cases h
    | ok m => rw [hint, coerceInt_eq_ok hint] at h; cases h; exact .inl ⟨n, hvalue, rfl, rfl⟩
  · rw [hn] at h
    cases hint : coerceInt 64 .i64 Int64.ofInt policy index n with
    | error e => rw [hint] at h; cases h
    | ok m => rw [hint, coerceInt_eq_ok hint] at h; cases h; exact .inr (.inl ⟨n, hvalue, rfl, rfl⟩)
  · rw [hs] at h
    cases h
    exact .inr (.inr ⟨hvalue, hkind⟩)
  · rw [hbad] at h
    cases h
  · rw [hbad] at h
    cases h

theorem kind_of_coerce {r : Operand} (h : coerce policy index kind value = .ok r) :
    r.kind = kind := by
  rcases coerce_eq_ok h with ⟨n, -, rfl, rfl⟩ | ⟨n, -, rfl, rfl⟩ | ⟨-, hkind⟩
  · rfl
  · rfl
  · exact hkind.symm

/-- A reference is passed on as the handle which it is. -/
theorem eq_ref_of_coerce {g : Handle} (h : coerce policy index kind value = .ok (.ref g)) :
    value = .ref g := by
  rcases coerce_eq_ok h with ⟨n, -, -, hn⟩ | ⟨n, -, -, hn⟩ | ⟨hvalue, -⟩
  · cases hn
  · cases hn
  · exact hvalue

/-- An argument which is a reference is coerced to itself or not at all. -/
theorem eq_ref_of_coerce_ref {g : Handle} {r : Operand}
    (h : coerce policy index kind (.ref g) = .ok r) : r = .ref g := by
  cases kind <;> simp_all [coerce, Value.toInt?]

/-- The errors of a coercion. -/
theorem coerce_eq_error {e : CallError} (h : coerce policy index kind value = .error e) :
    (∃ n : Int, e = .argumentOutOfRange index kind (toString n)) ∨
      e = .unsupportedArgumentType index value.typeName ∨
      e = .typeMismatch index kind value.typeName := by
  rcases coerce_cases policy index kind value with
    ⟨n, -, rfl, hn⟩ | ⟨n, -, rfl, hn⟩ | ⟨s, -, -, hs⟩ | hbad | hbad
  · rw [hn] at h
    cases hint : coerceInt 32 .i32 Int32.ofInt policy index n with
    | error e' => rw [hint] at h; cases h; exact .inl ⟨n, coerceInt_eq_error hint⟩
    | ok m => rw [hint] at h; cases h
  · rw [hn] at h
    cases hint : coerceInt 64 .i64 Int64.ofInt policy index n with
    | error e' => rw [hint] at h; cases h; exact .inl ⟨n, coerceInt_eq_error hint⟩
    | ok m => rw [hint] at h; cases h
  · rw [hs] at h
    cases h
  · rw [hbad] at h
    cases h
    exact .inr (.inl rfl)
  · rw [hbad] at h
    cases h
    exact .inr (.inr rfl)

theorem isArgumentError_of_coerce {e : CallError} (h : coerce policy index kind value = .error e) :
    e.isArgumentError = true := by
  rcases coerce_eq_error h with ⟨n, rfl⟩ | rfl | rfl <;> rfl

/-- The type of a value is named otherwise than a foreign reference. -/
theorem Value.typeName_ne_foreign (v : Value) : v.typeName ≠ "foreign reference" := by
  cases v <;> simp [Value.typeName]

theorem coerce_ne_foreign {j : Nat} {k : Kind} :
    coerce policy index kind value ≠ .error (.typeMismatch j k "foreign reference") := by
  intro h
  rcases coerce_eq_error h with ⟨n, hn⟩ | hn | hn
  · cases hn
  · cases hn
  · injection hn with _ _ hname
    exact value.typeName_ne_foreign hname.symm

theorem coerceFrom_eq_traverseFrom (policy : OverflowPolicy) (index : Nat) (kinds : List Kind)
    (values : List Value) :
    coerceFrom policy index kinds values =
      traverseFrom (fun i p => coerce policy i p.1 p.2) index (kinds.zip values) := by
  induction kinds generalizing index values with
  | nil => rfl
  | cons kind kinds ih =>
      cases values with
      | nil => rfl
      | cons value values =>
          simp only [coerceFrom, List.zip_cons_cons, traverseFrom, ih]
          cases coerce policy index kind value with
          | error e => rfl
          | ok r => cases traverseFrom _ (index + 1) (kinds.zip values) <;> rfl

end WasmCall
