import WasmCall.Proofs.Callable.Dispatch
import WasmCall.Proofs.Instance.Lookup

/-!
# Entering a machine

A call of a function enters the machine of an instance, at most once.  To see when it does, and with
what, the machine is entered through `recording`, which does the same and writes it down
(`callIn_recording`).

`Called` lists everything which a call may come to on any machine, as far as the instance is
concerned:

* the arguments are refused, or one of them is a reference which belongs elsewhere, or the fuel cannot
  be set, and the machine is not entered,
* the machine is entered once and traps,
* the machine is entered once and returns, and its results become values of the host unless they are
  not of the declared types.

Which of them can be left out depends on what is known of the machine: fuel can be set if it
`Refuels`, and results are of the declared types if it is `Typed`.
-/

namespace WasmCall

open Wasm

/-- A trap does not blame the arguments. -/
theorem CallError.isArgumentError_of_isTrap {e : CallError} (h : e.isTrap = true) :
    e.isArgumentError = false := by
  cases e <;> simp_all [isTrap, isArgumentError]

namespace Instance

variable {M : Machine} {i full : Instance M} {c : Callable FunctionRef} {elapsed : Nat}

/-- Fuel which is set changes nothing but the store. -/
theorem refuel_eq_ok (h : i.refuel = .ok full) :
    ∃ store, full = { i with store := store } ∧
      (i.budget = none ∧ store = i.store ∨ ∃ n, i.budget = some n ∧
        M.setFuel n i.store = .ok store) := by
  unfold refuel at h
  split at h
  · rename_i hbudget
    cases h
    exact ⟨i.store, rfl, .inl ⟨hbudget, rfl⟩⟩
  · rename_i n hbudget
    split at h
    · rename_i store hset
      cases h
      exact ⟨store, rfl, .inr ⟨n, hbudget, hset⟩⟩
    · cases h

theorem refuel_of_no_budget (h : i.budget = none) : i.refuel = .ok i := by
  unfold refuel
  split
  · rfl
  · rename_i n hbudget
    rw [h] at hbudget
    cases hbudget

theorem refuel_of_setFuel {n : UInt64} {store : M.Store} (h : i.budget = some n)
    (hset : M.setFuel n i.store = .ok store) : i.refuel = .ok { i with store := store } := by
  unfold refuel
  split
  · rename_i hbudget
    rw [h] at hbudget
    cases hbudget
  · rename_i m hbudget
    rw [h] at hbudget
    cases hbudget
    rw [hset]

/-- Fuel which cannot be set is a trap, which is not for want of fuel. -/
theorem refuel_eq_error {e : CallError} (h : i.refuel = .error e) :
    e.isTrap = true ∧ e.isOutOfFuel = false := by
  unfold refuel at h
  split at h
  · cases h
  · split at h
    · cases h
    · cases h
      exact ⟨rfl, rfl⟩

/-- The fuel of an instance can be set on a machine where it can be set at all. -/
theorem WellMade.exists_refuel (hi : i.WellMade) (hrefuels : M.Refuels) :
    ∃ full, i.refuel = .ok full := by
  cases hbudget : i.budget with
  | none => exact ⟨i, refuel_of_no_budget hbudget⟩
  | some n =>
      have hrunning := hi.running
      rw [hbudget] at hrunning
      obtain ⟨store, hset⟩ := hrefuels hrunning n
      exact ⟨_, refuel_of_setFuel hbudget hset⟩

theorem continues_refuel (h : i.refuel = .ok full) : i.Continues full := by
  obtain ⟨store, rfl, hcases⟩ := refuel_eq_ok h
  refine ⟨rfl, rfl, rfl, rfl, ?_, fun _ _ hc => .inl hc⟩
  intro metered hrunning
  rcases hcases with ⟨-, rfl⟩ | ⟨n, -, hset⟩
  · exact hrunning
  · exact hrunning.fuelled hset

theorem continues_enter (i : Instance M) (elapsed : Nat) (f : FunctionRef) (args : List Val) :
    i.Continues (i.enter elapsed f args).state :=
  ⟨rfl, rfl, rfl, rfl, fun _ h => h.called f.index args f.slots, fun _ _ h => .inl h⟩

/-- A machine which is entered and fails tells what went wrong in it. -/
theorem exists_fault_of_enter {f : FunctionRef} {args : List Val} {e : CallError}
    (h : (i.enter elapsed f args).result = .error e) :
    ∃ fault, (i.run f args).result = .error fault ∧ e = .ofFault fault := by
  have hmap : (i.run f args).result.mapError CallError.ofFault = .error e := h
  cases hrun : (i.run f args).result with
  | ok vs =>
      rw [hrun] at hmap
      cases hmap
  | error fault =>
      rw [hrun] at hmap
      cases hmap
      exact ⟨fault, rfl, rfl⟩

/-- A machine which is entered fails with a trap only. -/
theorem isTrap_of_enter {f : FunctionRef} {args : List Val} {e : CallError}
    (h : (i.enter elapsed f args).result = .error e) : e.isTrap = true := by
  obtain ⟨fault, -, rfl⟩ := exists_fault_of_enter h
  rfl

theorem run_of_enter_ok {f : FunctionRef} {args vs : List Val}
    (h : (i.enter elapsed f args).result = .ok vs) : (i.run f args).result = .ok vs := by
  have hmap : (i.run f args).result.mapError CallError.ofFault = .ok vs := h
  cases hrun : (i.run f args).result with
  | error fault => rw [hrun] at hmap; cases hmap
  | ok results =>
      rw [hrun] at hmap
      cases hmap
      rfl

/-- On a typed machine, a function which returns gives values of the kinds in its signature. -/
theorem WellMade.typesOf_of_enter (hi : i.WellMade) (htyped : M.Typed) (hc : i.Exported c)
    (hrefuel : i.refuel = .ok full) {args vs : List Val}
    (h : (full.enter elapsed c.target args).result = .ok vs) :
    typesOf vs = c.signature.results.map Boundary.typeOf := by
  have hcontinues := continues_refuel hrefuel
  have hrunning := (hi.continues hcontinues).running
  have hfound : M.func? full.linked c.name = some c.target.index := by
    rw [hcontinues.linked]
    exact hc.found
  rw [htyped hrunning hfound (run_of_enter_ok h), hcontinues.linked]
  exact hc.results

/-- A machine which was entered: that of which instance, the function, the values which were passed,
and what came back. -/
structure Entered where
  machine : InstanceId
  function : FunctionRef
  args : List Val
  result : Except CallError (List Val)

/-- Enter the machine of an instance as before, and write it down behind what is written down
already. -/
def recording {σ : Type} (entry : Entry σ) (owner : InstanceId) : Entry (σ × List Entered) where
  refuel s := (entry.refuel s.1).map fun t => (t, s.2)
  enter s f args :=
    let ran := entry.enter s.1 f args
    ran.mapState fun t => (t, s.2 ++ [⟨owner, f, args, ran.result⟩])

/-- Forget what was written down. -/
def Session.forget {σ : Type} (s : Session (σ × List Entered)) : Session σ :=
  ⟨s.machine.1, s.supply⟩

/-- A call does not depend on whether it is written down how it enters the machine. -/
theorem callIn_recording {σ : Type} (entry : Entry σ) (owner : InstanceId)
    (c : Callable FunctionRef) (args : List Value) (s : Session (σ × List Entered)) :
    (callIn (recording entry owner) owner c args s).mapState Session.forget =
      callIn entry owner c args s.forget := by
  unfold callIn
  apply Callable.call_mapState
  intro f operands t
  unfold invoke
  cases hlowered : Boundary.lowerAll owner operands with
  | error e => rfl
  | ok values =>
      cases hrefuel : entry.refuel t.machine.1 with
      | error e => simp only [recording, Except.map, Session.forget, hrefuel]; rfl
      | ok full =>
          simp only [recording, Except.map, Reply.mapState, Session.forget, hrefuel]
          cases hentered : (entry.enter full f values).result <;> rfl

theorem recording_refuel_ok {σ : Type} (entry : Entry σ) {s t : σ} (owner : InstanceId)
    (taken : List Entered) (h : entry.refuel s = .ok t) :
    (recording entry owner).refuel (s, taken) = .ok (t, taken) := by
  simp only [recording, h, Except.map]

theorem recording_refuel_error {σ : Type} (entry : Entry σ) {s : σ} {e : CallError}
    (owner : InstanceId) (taken : List Entered) (h : entry.refuel s = .error e) :
    (recording entry owner).refuel (s, taken) = .error e := by
  simp only [recording, h, Except.map]

section Phases

variable {σ : Type} (entry : Entry σ) {owner : InstanceId} {args : List Value}
  {operands : List Operand} {values results : List Val} {e : CallError} {t : σ}

/-- Arguments which are refused do not get to the machine. -/
theorem callIn_of_operands_error (h : c.operands args = .error e) (s : Session σ) :
    callIn entry owner c args s = .pure (.error e) s :=
  Callable.call_of_operands_error _ h _

/-- Operands which cannot be lowered do not get to the machine either. -/
theorem callIn_of_lowerAll_error (h : c.operands args = .ok operands)
    (hlowered : Boundary.lowerAll owner operands = .error e) (s : Session σ) :
    callIn entry owner c args s =
      ⟨.error e, s, .dispatching c.name args.length :: c.outcomeEvents (.error e)⟩ := by
  rw [callIn, Callable.call_of_operands_ok _ h]
  simp only [invoke, hlowered, Reply.pure]
  rfl

/-- Fuel which cannot be set ends the call in front of the machine. -/
theorem callIn_of_refuel_error (h : c.operands args = .ok operands)
    (hlowered : Boundary.lowerAll owner operands = .ok values) {s : Session σ}
    (hrefuel : entry.refuel s.machine = .error e) :
    callIn entry owner c args s =
      ⟨.error e, s, .dispatching c.name args.length :: c.outcomeEvents (.error e)⟩ := by
  rw [callIn, Callable.call_of_operands_ok _ h]
  simp only [invoke, hlowered, hrefuel, Reply.pure]
  rfl

/-- A machine which fails decides what comes of the call. -/
theorem callIn_of_enter_error (h : c.operands args = .ok operands)
    (hlowered : Boundary.lowerAll owner operands = .ok values) {s : Session σ}
    (hrefuel : entry.refuel s.machine = .ok t)
    (henter : (entry.enter t c.target values).result = .error e) :
    callIn entry owner c args s =
      ⟨.error e, ⟨(entry.enter t c.target values).state, s.supply⟩,
        .dispatching c.name args.length :: (entry.enter t c.target values).events ++
          c.outcomeEvents (.error e)⟩ := by
  rw [callIn, Callable.call_of_operands_ok _ h]
  simp only [invoke, hlowered, hrefuel, henter]
  rfl

/-- What a machine returns is raised and becomes the result. -/
theorem callIn_of_enter_ok (h : c.operands args = .ok operands)
    (hlowered : Boundary.lowerAll owner operands = .ok values) {s : Session σ}
    (hrefuel : entry.refuel s.machine = .ok t)
    (henter : (entry.enter t c.target values).result = .ok results) :
    callIn entry owner c args s =
      ⟨(Boundary.raiseAll owner s.supply results).1.bind c.decode,
        ⟨(entry.enter t c.target values).state, (Boundary.raiseAll owner s.supply results).2⟩,
        .dispatching c.name args.length :: (entry.enter t c.target values).events ++
          c.outcomeEvents (Boundary.raiseAll owner s.supply results).1⟩ := by
  rw [callIn, Callable.call_of_operands_ok _ h]
  simp only [invoke, hlowered, hrefuel, henter]

end Phases

section Recorded

variable {args : List Value} {operands : List Operand} {values results : List Val} {e : CallError}

/-- The record of a call which fails in the machine. -/
theorem recorded_of_enter_error (h : c.operands args = .ok operands)
    (hlowered : Boundary.lowerAll i.id operands = .ok values) (hrefuel : i.refuel = .ok full)
    (henter : (full.enter elapsed c.target values).result = .error e) (supply : HandleSupply) :
    ∃ events, callIn (recording (entry elapsed) i.id) i.id c args ⟨(i, []), supply⟩ =
      ⟨.error e, ⟨((full.enter elapsed c.target values).state,
        [⟨i.id, c.target, values, .error e⟩]), supply⟩, events⟩ := by
  have hrefuel' := recording_refuel_ok (entry elapsed) i.id [] hrefuel
  rw [callIn_of_enter_error _ h hlowered hrefuel' henter, ← henter]
  exact ⟨_, rfl⟩

/-- The record of a call which comes back from the machine. -/
theorem recorded_of_enter_ok (h : c.operands args = .ok operands)
    (hlowered : Boundary.lowerAll i.id operands = .ok values) (hrefuel : i.refuel = .ok full)
    (henter : (full.enter elapsed c.target values).result = .ok results) (supply : HandleSupply) :
    ∃ events, callIn (recording (entry elapsed) i.id) i.id c args ⟨(i, []), supply⟩ =
      ⟨(Boundary.raiseAll i.id supply results).1.bind c.decode,
        ⟨((full.enter elapsed c.target values).state, [⟨i.id, c.target, values, .ok results⟩]),
          (Boundary.raiseAll i.id supply results).2⟩, events⟩ := by
  have hrefuel' := recording_refuel_ok (entry elapsed) i.id [] hrefuel
  rw [callIn_of_enter_ok _ h hlowered hrefuel' henter, ← henter]
  exact ⟨_, rfl⟩

/-- Arguments which are coerced and lowered enter the machine once it is refuelled, as the values
which they stand for. -/
theorem entered_of_lowerAll (h : c.operands args = .ok operands)
    (hlowered : Boundary.lowerAll i.id operands = .ok values) (hrefuel : i.refuel = .ok full)
    (supply : HandleSupply) :
    (callIn (recording (entry elapsed) i.id) i.id c args ⟨(i, []), supply⟩).state.machine.2 =
      [⟨i.id, c.target, values, (full.enter elapsed c.target values).result⟩] := by
  cases henter : (full.enter elapsed c.target values).result with
  | error e =>
      obtain ⟨events, hcall⟩ := recorded_of_enter_error h hlowered hrefuel henter supply
      rw [hcall]
  | ok results =>
      obtain ⟨events, hcall⟩ := recorded_of_enter_ok h hlowered hrefuel henter supply
      rw [hcall]

end Recorded

/-- What a call may come to: its result, what it leaves behind, and how it entered the machine. -/
inductive Called (i : Instance M) (elapsed : Nat) (supply : HandleSupply)
    (c : Callable FunctionRef) (args : List Value) :
    Except CallError CallResult → Session (Instance M) → List Entered → Prop
  | refused (e : CallError) (hrefused : c.Refuses args e) :
      Called i elapsed supply c args (.error e) ⟨i, supply⟩ []
  | foreign (operands : List Operand) (haccepted : c.Accepts args operands) (index : Nat)
      (g : Handle) (hg : operands[index]? = some (.ref g)) (hforeign : ¬ Boundary.Belongs i.id g)
      (hleast : ∀ j < index, ∀ g', operands[j]? = some (.ref g') → Boundary.Belongs i.id g') :
      Called i elapsed supply c args (.error (Boundary.foreign index)) ⟨i, supply⟩ []
  | stalled (operands : List Operand) (haccepted : c.Accepts args operands) (values : List Val)
      (hlowered : Boundary.lowerAll i.id operands = .ok values) (e : CallError)
      (hrefuel : i.refuel = .error e) :
      Called i elapsed supply c args (.error e) ⟨i, supply⟩ []
  | trapped (operands : List Operand) (haccepted : c.Accepts args operands) (values : List Val)
      (hlowered : Boundary.lowerAll i.id operands = .ok values) (full : Instance M)
      (hrefuel : i.refuel = .ok full) (e : CallError)
      (henter : (full.enter elapsed c.target values).result = .error e) :
      Called i elapsed supply c args (.error e) ⟨(full.enter elapsed c.target values).state, supply⟩
        [⟨i.id, c.target, values, .error e⟩]
  | mismatched (operands : List Operand) (haccepted : c.Accepts args operands)
      (values : List Val) (hlowered : Boundary.lowerAll i.id operands = .ok values)
      (full : Instance M) (hrefuel : i.refuel = .ok full) (results : List Val)
      (henter : (full.enter elapsed c.target values).result = .ok results)
      (hmistyped : typesOf results ≠ c.signature.results.map Boundary.typeOf) (reason : String)
      (behind : HandleSupply) (hbehind : supply.next ≤ behind.next) :
      Called i elapsed supply c args (.error (.resultMismatch reason))
        ⟨(full.enter elapsed c.target values).state, behind⟩
        [⟨i.id, c.target, values, .ok results⟩]
  | returned (operands : List Operand) (haccepted : c.Accepts args operands) (values : List Val)
      (hlowered : Boundary.lowerAll i.id operands = .ok values) (full : Instance M)
      (hrefuel : i.refuel = .ok full) (results : List Val)
      (henter : (full.enter elapsed c.target values).result = .ok results) (raised : List Operand)
      (behind : HandleSupply) (hraised : Boundary.Raised i.id supply results raised behind)
      (hkinds : raised.map Operand.kind = c.signature.results) (r : CallResult)
      (hshape : r.Shaped c.signature.results.length)
      (hvalues : r.toList = raised.map Operand.toValue) :
      Called i elapsed supply c args (.ok r) ⟨(full.enter elapsed c.target values).state, behind⟩
        [⟨i.id, c.target, values, .ok results⟩]

section Called

variable {supply : HandleSupply} {args : List Value} {result : Except CallError CallResult}
  {s : Session (Instance M)} {entered : List Entered}

/-- Whatever a call comes to, the instance goes on, and handles are only taken from the supply. -/
theorem Called.continues (h : i.Called elapsed supply c args result s entered) :
    i.Continues s.machine ∧ supply.next ≤ s.supply.next := by
  -- A machine which is entered was refuelled before.
  have henters : ∀ {full : Instance M} (values : List Val), i.refuel = .ok full →
      i.Continues (full.enter elapsed c.target values).state := fun values hrefuel =>
    (continues_refuel hrefuel).trans (continues_enter _ elapsed c.target values)
  cases h with
  | refused e hrefused => exact ⟨.refl i, Nat.le_refl _⟩
  | foreign operands haccepted index g hg hforeign hleast => exact ⟨.refl i, Nat.le_refl _⟩
  | stalled operands haccepted values hlowered e hrefuel => exact ⟨.refl i, Nat.le_refl _⟩
  | trapped operands haccepted values hlowered full hrefuel e henter =>
      exact ⟨henters values hrefuel, Nat.le_refl _⟩
  | mismatched operands haccepted values hlowered full hrefuel results henter hmistyped reason
      behind hbehind =>
      exact ⟨henters values hrefuel, hbehind⟩
  | returned operands haccepted values hlowered full hrefuel results henter raised behind hraised =>
      exact ⟨henters values hrefuel, hraised.supply⟩

/-- A machine is entered for the function of the callable, with values for accepted arguments. -/
theorem Called.lowered (h : i.Called elapsed supply c args result s entered) {e : Entered}
    (he : e ∈ entered) :
    e.machine = i.id ∧ e.function = c.target ∧
      ∃ operands, c.Accepts args operands ∧ Boundary.lowerAll i.id operands = .ok e.args := by
  cases h with
  | refused e hrefused => simp at he
  | foreign operands haccepted index g hg hforeign hleast => simp at he
  | stalled operands haccepted values hlowered e hrefuel => simp at he
  | trapped operands haccepted values hlowered full hrefuel e henter =>
      obtain rfl := List.mem_singleton.1 he
      exact ⟨rfl, rfl, operands, haccepted, hlowered⟩
  | mismatched operands haccepted values hlowered full hrefuel results henter =>
      obtain rfl := List.mem_singleton.1 he
      exact ⟨rfl, rfl, operands, haccepted, hlowered⟩
  | returned operands haccepted values hlowered full hrefuel results henter =>
      obtain rfl := List.mem_singleton.1 he
      exact ⟨rfl, rfl, operands, haccepted, hlowered⟩

/-- A call leaves the machine alone, or enters it once after it was refuelled. -/
theorem Called.entered_cases (h : i.Called elapsed supply c args result s entered) :
    (entered = [] ∧ s = ⟨i, supply⟩) ∨
      ∃ (full : Instance M) (values : List Val), i.refuel = .ok full ∧
        entered = [⟨i.id, c.target, values, (full.enter elapsed c.target values).result⟩] ∧
        s.machine = (full.enter elapsed c.target values).state := by
  cases h with
  | refused e hrefused => exact .inl ⟨rfl, rfl⟩
  | foreign operands haccepted index g hg hforeign hleast => exact .inl ⟨rfl, rfl⟩
  | stalled operands haccepted values hlowered e hrefuel => exact .inl ⟨rfl, rfl⟩
  | trapped operands haccepted values hlowered full hrefuel e henter =>
      exact .inr ⟨full, values, hrefuel, by rw [henter], rfl⟩
  | mismatched operands haccepted values hlowered full hrefuel results henter =>
      exact .inr ⟨full, values, hrefuel, by rw [henter], rfl⟩
  | returned operands haccepted values hlowered full hrefuel results henter =>
      exact .inr ⟨full, values, hrefuel, by rw [henter], rfl⟩

/-- A call which is rejected for a reference was given one which belongs elsewhere. -/
theorem Called.exists_foreign {j : Nat} {k : Kind}
    (h : i.Called elapsed supply c args (.error (.typeMismatch j k "foreign reference")) s
      entered) :
    ∃ operands g, c.Accepts args operands ∧ operands[j]? = some (.ref g) ∧
      ¬ Boundary.Belongs i.id g := by
  cases h with
  | refused _ hrefused => exact absurd rfl (hrefused.ne_foreign j k)
  | foreign operands haccepted _ g hg hforeign hleast =>
      exact ⟨operands, g, haccepted, hg, hforeign⟩
  | stalled operands haccepted values hlowered _ hrefuel =>
      have htrap := (refuel_eq_error hrefuel).1
      cases htrap
  | trapped operands haccepted values hlowered full hrefuel _ henter =>
      have htrap := isTrap_of_enter henter
      cases htrap

/-- A call which fails and blames the arguments has done nothing.  Otherwise the fuel could not be
set, or the machine was entered once and trapped or came back with values of other types. -/
theorem Called.error_cases {e : CallError}
    (h : i.Called elapsed supply c args (.error e) s entered) :
    (e.isArgumentError = true ∧ entered = [] ∧ s = ⟨i, supply⟩) ∨
      (e.isArgumentError = false ∧ i.refuel = .error e ∧ entered = [] ∧ s = ⟨i, supply⟩) ∨
      (e.isArgumentError = false ∧ entered.length = 1 ∧
        (e.isTrap = true ∨ ∃ (full : Instance M) (values results : List Val) (reason : String),
          i.refuel = .ok full ∧ (full.enter elapsed c.target values).result = .ok results ∧
            typesOf results ≠ c.signature.results.map Boundary.typeOf ∧
            e = .resultMismatch reason)) := by
  cases h with
  | refused _ hrefused => exact .inl ⟨hrefused.isArgumentError, rfl, rfl⟩
  | foreign operands haccepted j g hg hforeign hleast => exact .inl ⟨rfl, rfl, rfl⟩
  | stalled operands haccepted values hlowered _ hrefuel =>
      have htrap := (refuel_eq_error hrefuel).1
      exact .inr (.inl ⟨CallError.isArgumentError_of_isTrap htrap, hrefuel, rfl, rfl⟩)
  | trapped operands haccepted values hlowered full hrefuel _ henter =>
      have htrap := isTrap_of_enter henter
      exact .inr (.inr ⟨CallError.isArgumentError_of_isTrap htrap, rfl, .inl htrap⟩)
  | mismatched operands haccepted values hlowered full hrefuel results henter hmistyped reason =>
      exact .inr (.inr ⟨rfl, rfl,
        .inr ⟨full, values, results, reason, hrefuel, henter, hmistyped, rfl⟩⟩)

/-- On a typed machine which can be refuelled, a call which fails either blames the arguments and has
done nothing, or has entered the machine once and trapped. -/
theorem Called.error_cases_of_typed {e : CallError}
    (h : i.Called elapsed supply c args (.error e) s entered) (hi : i.WellMade)
    (hc : i.Exported c) (hrefuels : M.Refuels) (htyped : M.Typed) :
    (e.isArgumentError = true ∧ entered = [] ∧ s = ⟨i, supply⟩) ∨
      (e.isArgumentError = false ∧ entered.length = 1 ∧ e.isTrap = true) := by
  rcases h.error_cases with hblame | ⟨-, hrefuel, -⟩ | ⟨hnoblame, hlength, htrap | hmismatch⟩
  · exact .inl hblame
  · obtain ⟨full, hfull⟩ := hi.exists_refuel hrefuels
    rw [hfull] at hrefuel
    cases hrefuel
  · exact .inr ⟨hnoblame, hlength, htrap⟩
  · obtain ⟨full, values, results, reason, hrefuel, henter, hmistyped, -⟩ := hmismatch
    exact absurd (hi.typesOf_of_enter htyped hc hrefuel henter) hmistyped

/-- A call which succeeds has entered the machine once, and the values which came back are those
of the result. -/
theorem Called.eq_ok {r : CallResult} (h : i.Called elapsed supply c args (.ok r) s entered) :
    ∃ values results raised, entered = [⟨i.id, c.target, values, .ok results⟩] ∧
      Boundary.Raised i.id supply results raised s.supply ∧
      raised.map Operand.kind = c.signature.results ∧ r.Shaped c.signature.results.length ∧
      r.toList = raised.map Operand.toValue := by
  cases h with
  | returned operands haccepted values hlowered full hrefuel results henter raised behind hraised
      hkinds _ hshape hvalues =>
      exact ⟨values, results, raised, rfl, hraised, hkinds, hshape, hvalues⟩

end Called

/-- What a machine returns becomes a result if it is of the declared types. -/
theorem called_of_enter_ok {supply : HandleSupply} {args : List Value} {operands : List Operand}
    (haccepted : c.Accepts args operands) {values results : List Val}
    (hlowered : Boundary.lowerAll i.id operands = .ok values) (hrefuel : i.refuel = .ok full)
    (henter : (full.enter elapsed c.target values).result = .ok results) :
    Called i elapsed supply c args ((Boundary.raiseAll i.id supply results).1.bind c.decode)
      ⟨(full.enter elapsed c.target values).state, (Boundary.raiseAll i.id supply results).2⟩
      [⟨i.id, c.target, values, .ok results⟩] := by
  rcases Boundary.raiseAll_cases i.id supply results with
    ⟨raised, behind, hraise, hraised⟩ | ⟨reason, behind, hraise, hbehind⟩
  · rw [hraise]
    simp only [Except.bind]
    by_cases hkinds : raised.map Operand.kind = c.signature.results
    · obtain ⟨r, hdecode, hshape, hvalues⟩ := Callable.exists_result hkinds
      rw [hdecode]
      exact .returned operands haccepted values hlowered full hrefuel results henter raised behind
        hraised hkinds r hshape hvalues
    · obtain ⟨reason, hdecode⟩ := Callable.exists_mismatch hkinds
      rw [hdecode]
      -- Kinds are as different as the types which they stand for.
      have hmistyped : typesOf results ≠ c.signature.results.map Boundary.typeOf := by
        rw [hraised.kinds]
        exact fun hsame => hkinds ((List.map_inj_right fun _ _ => Boundary.typeOf_inj).1 hsame)
      exact .mismatched operands haccepted values hlowered full hrefuel results henter hmistyped
        reason behind hraised.supply
  · -- A value without a kind has none of the declared types.
    have hmistyped : typesOf results ≠ c.signature.results.map Boundary.typeOf := by
      intro htypes
      obtain ⟨raised, behind', hraise', -⟩ := Boundary.raised_raiseAll i.id supply htypes
      rw [hraise'] at hraise
      cases hraise
    rw [hraise]
    exact .mismatched operands haccepted values hlowered full hrefuel results henter hmistyped
      reason behind hbehind

/-- A call comes to one of these, on any machine. -/
theorem called_callIn (i : Instance M) (elapsed : Nat) (c : Callable FunctionRef)
    (supply : HandleSupply) (args : List Value) :
    let reply := callIn (recording (entry elapsed) i.id) i.id c args ⟨(i, []), supply⟩
    Called i elapsed supply c args reply.result reply.state.forget reply.state.machine.2 := by
  intro reply
  -- The outcomes part at the operands, at the values for them, at the fuel, and at what the machine
  -- gives.
  cases hoperands : c.operands args with
  | error e =>
      have hreply : reply = _ := callIn_of_operands_error _ hoperands _
      rw [hreply]
      exact .refused e ((Callable.operands_eq_error_iff c args e).1 hoperands)
  | ok operands =>
      have haccepted := (Callable.operands_eq_ok_iff c args operands).1 hoperands
      cases hlowered : Boundary.lowerAll i.id operands with
      | error e =>
          obtain ⟨j, g, hg, hforeign, rfl, hleast⟩ := Boundary.lowerAll_eq_error_iff.1 hlowered
          have hreply : reply = _ := callIn_of_lowerAll_error _ hoperands hlowered _
          rw [hreply]
          exact .foreign operands haccepted j g hg hforeign hleast
      | ok values =>
          cases hrefuel : i.refuel with
          | error e =>
              have hreply : reply = _ := callIn_of_refuel_error _ hoperands hlowered
                (recording_refuel_error (entry elapsed) i.id [] hrefuel)
              rw [hreply]
              exact .stalled operands haccepted values hlowered e hrefuel
          | ok full =>
              cases henter : (full.enter elapsed c.target values).result with
              | error e =>
                  obtain ⟨events, hreply⟩ :=
                    recorded_of_enter_error hoperands hlowered hrefuel henter supply
                  change reply = _ at hreply
                  rw [hreply]
                  exact .trapped operands haccepted values hlowered full hrefuel e henter
              | ok results =>
                  obtain ⟨events, hreply⟩ :=
                    recorded_of_enter_ok hoperands hlowered hrefuel henter supply
                  change reply = _ at hreply
                  rw [hreply]
                  exact called_of_enter_ok haccepted hlowered hrefuel henter

end Instance

end WasmCall
