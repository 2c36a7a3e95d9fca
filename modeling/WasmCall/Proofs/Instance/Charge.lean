import WasmCall.Proofs.Instance.Entry
import WasmCall.Proofs.Metrics

/-!
# What a call is charged

A call is recorded if and only if it enters the machine, which it does if its arguments are admitted
and fuel can be set (`Admits`, `Called.charge_cases`).  What is recorded of it is how long it took,
whether it trapped, and how much of the full budget is gone when it is over (`metrics_enter`,
`toNat_consumed`).
-/

namespace WasmCall

open Wasm

/-- Whether a trap came back. -/
def CallError.trapped {α : Type} : Except CallError α → Bool
  | .ok _ => false
  | .error e => e.isTrap

/-- An error which blames the arguments is no trap. -/
theorem CallError.isTrap_of_isArgumentError {e : CallError} (h : e.isArgumentError = true) :
    e.isTrap = false := by
  cases e <;> simp_all [isTrap, isArgumentError]

/-- The fuel which was used is what is missing. -/
theorem toNat_fuelUsed (initial : UInt64) (remaining : Option UInt64) :
    (fuelUsed initial remaining).toNat = initial.toNat - (remaining.getD 0).toNat := by
  have hused : fuelUsed initial remaining =
      initial - if initial ≤ remaining.getD 0 then initial else remaining.getD 0 := rfl
  rw [hused]
  by_cases hle : initial ≤ remaining.getD 0
  · have hnat : initial.toNat ≤ (remaining.getD 0).toNat := hle
    rw [if_pos hle, UInt64.sub_self, UInt64.toNat_zero]
    omega
  · have hnat : (remaining.getD 0).toNat ≤ initial.toNat := Nat.le_of_not_le hle
    rw [if_neg hle, UInt64.toNat_sub_of_le _ _ hnat]

namespace Instance

variable {M : Machine} {i j full : Instance M} {c : Callable FunctionRef} {args : List Value}
  {elapsed : Nat}

/-- Arguments are admitted to the machine of an instance if they are of the right number, all of them
can be coerced, and all references among them belong to the instance. -/
def Admits (owner : InstanceId) (c : Callable FunctionRef) (args : List Value) : Prop :=
  ∃ operands, c.Accepts args operands ∧
    ∀ (k : Nat) (g : Handle), operands[k]? = some (.ref g) → Boundary.Belongs owner g

/-- Arguments are admitted if they can be turned into values of the machine. -/
theorem admits_iff (owner : InstanceId) (c : Callable FunctionRef) (args : List Value) :
    ((c.operands args).bind (Boundary.lowerAll owner)).isOk = true ↔ Admits owner c args := by
  unfold Admits
  cases hoperands : c.operands args with
  | error e =>
      have hrefused := (Callable.operands_eq_error_iff c args e).1 hoperands
      constructor
      · intro hok
        cases hok
      · rintro ⟨operands, haccepted, -⟩
        exact absurd haccepted (hrefused.not_accepts operands)
  | ok operands =>
      have haccepts : ∀ rs, c.Accepts args rs ↔ rs = operands := by
        intro rs
        rw [← Callable.operands_eq_ok_iff, hoperands, Except.ok.injEq, eq_comm]
      simp only [haccepts, exists_eq_left, ← Boundary.exists_lowerAll_iff, Except.bind]
      cases Boundary.lowerAll owner operands <;> simp [Except.isOk, Except.toBool]

/-- Arguments which could be lowered were admitted. -/
theorem admits_of_lowerAll {owner : InstanceId} {operands : List Operand} {values : List Val}
    (haccepted : c.Accepts args operands)
    (hlowered : Boundary.lowerAll owner operands = .ok values) : Admits owner c args :=
  ⟨operands, haccepted, Boundary.exists_lowerAll_iff.1 ⟨values, hlowered⟩⟩

instance (owner : InstanceId) (c : Callable FunctionRef) (args : List Value) :
    Decidable (Admits owner c args) :=
  decidable_of_iff _ (admits_iff owner c args)

/-- What is missing of a full budget.  Nothing is if there is none. -/
def used (maxFuel : UInt64) (i : Instance M) : Nat :=
  match i.budget, M.fuelLeft i.store with
  | some _, some left => maxFuel.toNat - left.toNat
  | _, _ => 0

theorem used_le (maxFuel : UInt64) (i : Instance M) : i.used maxFuel ≤ maxFuel.toNat := by
  unfold used
  split
  · exact Nat.sub_le _ _
  · exact Nat.zero_le _

/-- Fuel which can be told is what is left. -/
theorem fuelLeft_eq_some_iff {s : M.Store} {n : UInt64} :
    M.fuelLeft s = some n ↔ M.fuel s = .ok n := by
  unfold Machine.fuelLeft
  cases M.fuel s <;> simp [Except.toOption]

/-- The fuel of an instance with a budget can be told on a machine where it can be told at all. -/
theorem WellMade.exists_fuelLeft (hi : i.WellMade) (hgauges : M.Gauges)
    (hbudget : i.budget.isSome = true) : ∃ left, M.fuelLeft i.store = some left := by
  have hrunning := hi.running
  rw [hbudget] at hrunning
  obtain ⟨left, hleft⟩ := hgauges hrunning
  exact ⟨left, fuelLeft_eq_some_iff.2 hleft⟩

/-- What is recorded when a machine was entered. -/
theorem metrics_enter (i : Instance M) (elapsed : Nat) (f : FunctionRef) (values : List Val) :
    (i.enter elapsed f values).state.metrics = i.metrics.record
      ⟨elapsed, (i.enter elapsed f values).state.consumed,
        CallError.trapped (i.enter elapsed f values).result⟩ := by
  cases hrun : (i.run f values).result with
  | ok results =>
      simp only [enter, hrun, Except.mapError]
      rfl
  | error fault =>
      simp only [enter, hrun, Except.mapError]
      rfl

/-- The fuel which is recorded is what is missing of the budget, if it can be told. -/
theorem toNat_consumed {maxFuel : UInt64} (hbudget : ∀ n, i.budget = some n → n = maxFuel)
    (hgauged : i.budget.isSome = true → ∃ left, M.fuelLeft i.store = some left) :
    i.consumed.toNat = i.used maxFuel := by
  unfold consumed used
  cases hn : i.budget with
  | none => rfl
  | some n =>
      obtain rfl := hbudget n hn
      obtain ⟨left, hleft⟩ := hgauged (by rw [hn]; rfl)
      simp only [hleft]
      exact toNat_fuelUsed n _

/-- An instance and what became of it in a call which entered its machine and came to a result.

* `metrics`: the call was recorded.
* `gauged`: there is fuel left, even if it is none, if there is a budget.
* `consumed`: the fuel which was recorded is what is missing of the budget. -/
structure Charged (elapsed : Nat) (i j : Instance M) (result : Except CallError CallResult) :
    Prop where
  metrics : j.metrics = i.metrics.record ⟨elapsed, j.consumed, CallError.trapped result⟩
  gauged : j.budget.isSome = true → ∃ left, M.fuelLeft j.store = some left
  consumed : ∀ maxFuel, (∀ n, j.budget = some n → n = maxFuel) →
    j.consumed.toNat = j.used maxFuel

theorem WellMade.charged_enter (hi : i.WellMade) (hgauges : M.Gauges)
    (hrefuel : i.refuel = .ok full) {f : FunctionRef} {values : List Val}
    {result : Except CallError CallResult}
    (h : CallError.trapped result = CallError.trapped (full.enter elapsed f values).result) :
    i.Charged elapsed (full.enter elapsed f values).state result := by
  have hgauged := fun hbudget =>
    ((hi.continues (continues_refuel hrefuel)).continues
      (continues_enter full elapsed f values)).exists_fuelLeft hgauges hbudget
  refine ⟨?_, hgauged, fun _ hbudget => toNat_consumed hbudget hgauged⟩
  obtain ⟨store, rfl, -⟩ := refuel_eq_ok hrefuel
  rw [h]
  exact metrics_enter _ elapsed f values

/-- A call whose arguments are not admitted has done nothing, and does not say that it trapped.  Any
other call has entered the machine, once, and is charged for it. -/
theorem Called.charge_cases {supply : HandleSupply} {result : Except CallError CallResult}
    {s : Session (Instance M)} {entered : List Entered}
    (h : i.Called elapsed supply c args result s entered) (hi : i.WellMade)
    (hrefuels : M.Refuels) (hgauges : M.Gauges) :
    (¬ Admits i.id c args ∧ entered = [] ∧ s.machine = i ∧ CallError.trapped result = false) ∨
      (Admits i.id c args ∧ entered.length = 1 ∧ i.Charged elapsed s.machine result) := by
  cases h with
  | refused e hrefused =>
      refine .inl ⟨?_, rfl, rfl, CallError.isTrap_of_isArgumentError hrefused.isArgumentError⟩
      rintro ⟨operands, haccepted, -⟩
      exact hrefused.not_accepts operands haccepted
  | foreign operands haccepted index g hg hforeign hleast =>
      refine .inl ⟨?_, rfl, rfl, rfl⟩
      rintro ⟨operands', haccepted', hbelongs⟩
      have hsame : operands' = operands := by
        have hok := (Callable.operands_eq_ok_iff c args operands).2 haccepted
        rw [(Callable.operands_eq_ok_iff c args operands').2 haccepted'] at hok
        exact Except.ok.inj hok
      rw [hsame] at hbelongs
      exact hforeign (hbelongs index g hg)
  | stalled operands haccepted values hlowered e hrefuel =>
      obtain ⟨full, hfull⟩ := hi.exists_refuel hrefuels
      rw [hfull] at hrefuel
      cases hrefuel
  | trapped operands haccepted values hlowered full hrefuel e henter =>
      exact .inr ⟨admits_of_lowerAll haccepted hlowered, rfl,
        hi.charged_enter hgauges hrefuel (by rw [henter]; rfl)⟩
  | mismatched operands haccepted values hlowered full hrefuel results henter =>
      exact .inr ⟨admits_of_lowerAll haccepted hlowered, rfl,
        hi.charged_enter hgauges hrefuel (by rw [henter]; rfl)⟩
  | returned operands haccepted values hlowered full hrefuel results henter raised behind hraised =>
      exact .inr ⟨admits_of_lowerAll haccepted hlowered, rfl,
        hi.charged_enter hgauges hrefuel (by rw [henter]; rfl)⟩

end Instance

end WasmCall
