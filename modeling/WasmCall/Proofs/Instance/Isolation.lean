import WasmCall.Host
import WasmCall.Proofs.Alike
import WasmCall.Proofs.Instance.Charge
import WasmCall.Proofs.Wasm.Interpreter

/-!
# Calls do not share fuel

Every call starts with a full budget, so what happened before can make a difference to it only through
the state of the machine.  This is said of two instances which may differ in their fuel, their
counters and whatever they remember: as long as calls of the same functions are made in both, with
arguments which are alike, they cannot be told apart.

* `calls`: the calls which are made for some requests, one after another.
* `Twin`: what two instances have to share for calls to be the same in both.
* `Isolated`: two calls of which nothing that can be seen is different.
* `Refuelled`: a call whose machine, if it was entered, had a given amount of fuel, and which was
  charged for what it used of that and nothing else.
* `calls_isolated`: the calls in two such instances are isolated and refuelled.

The machine has to be one where fuel can be set and overwrites what was left of it, and where a call
depends on nothing but the state and the fuel.  Two instances are `Level` between the moment when both
are refuelled and the end of the call.
-/

namespace WasmCall.Instance

open Wasm

/-- A function, arguments for it, and the time which a call takes. -/
structure Request where
  callable : Callable FunctionRef
  args : List Value
  elapsed : Nat

/-- The same function is to be called with arguments which are alike. -/
structure Request.Alike (r r' : Request) : Prop where
  callable : r.callable = r'.callable
  args : List.Forall₂ Value.Alike r.args r'.args

variable {M : Machine}

/-- What comes of a request in a session. -/
def Request.reply (r : Request) (s : Session (Instance M)) :
    Reply (Session (Instance M)) (Except CallError CallResult) :=
  call r.elapsed r.callable r.args s

/-- A request, and the session in which it is made. -/
structure Call (M : Machine) where
  session : Session (Instance M)
  request : Request

namespace Call

variable (a : Call M)

/-- What comes of a call. -/
def reply : Reply (Session (Instance M)) (Except CallError CallResult) :=
  a.request.reply a.session

/-- What comes of a call, with a record of how it enters the machine. -/
def recorded : Reply (Session (Instance M × List Entered)) (Except CallError CallResult) :=
  callIn (recording (entry a.request.elapsed) a.session.machine.id) a.session.machine.id
    a.request.callable a.request.args ⟨(a.session.machine, []), a.session.supply⟩

/-- How a call enters the machine. -/
def entered : List Entered :=
  a.recorded.state.machine.2

/-- What is recorded of a call: the time, the fuel which is missing when it is over, and whether it
trapped. -/
def records : List CallRecord :=
  a.entered.map fun e =>
    ⟨a.request.elapsed, a.reply.state.machine.consumed, CallError.trapped e.result⟩

/-- What a call is charged, if it entered the machine. -/
def charges : List UInt64 :=
  a.records.map CallRecord.fuel

/-- A call is the same whether it is written down or not. -/
theorem recorded_eq_reply : a.recorded.mapState Session.forget = a.reply :=
  callIn_recording (entry a.request.elapsed) a.session.machine.id a.request.callable
    a.request.args _

end Call

/-- Calls which are made one after another. -/
def calls : List Request → Session (Instance M) → List (Call M)
  | [], _ => []
  | r :: rs, s => ⟨s, r⟩ :: calls rs (r.reply s).state

variable {i j full full' : Instance M} {a b : Call M} {limit : Option UInt64} {elapsed : Nat}

/-- Two instances which differ at most in their fuel, their counters and what they remember. -/
structure Twin (i j : Instance M) : Prop where
  id : j.id = i.id
  linked : j.linked = i.linked
  budget : j.budget = i.budget
  state : M.state i.store = M.state j.store
  running : M.Running i.budget.isSome i.linked i.store
  running' : M.Running i.budget.isSome i.linked j.store

/-- Twins which have the same fuel, if it is metered. -/
structure Level (i j : Instance M) : Prop extends Twin i j where
  fuel : i.budget.isSome = true → M.fuelLeft i.store = M.fuelLeft j.store

theorem Level.alike (h : i.Level j) : M.Alike i.budget.isSome i.store j.store :=
  ⟨h.state, h.fuel⟩

/-- Twins can be refuelled, and this levels them. -/
theorem Twin.refuel (h : i.Twin j) (hrefuels : M.Refuels) (hoverwrites : M.Overwrites) :
    ∃ full full', i.refuel = .ok full ∧ j.refuel = .ok full' ∧ full.Level full' := by
  have hrunning := h.running
  have hrunning' := h.running'
  cases hbudget : i.budget with
  | none =>
      refine ⟨i, j, refuel_of_no_budget hbudget,
        refuel_of_no_budget (h.budget.trans hbudget), h, ?_⟩
      rw [hbudget]
      intro hsome
      cases hsome
  | some n =>
      have hmetered : i.budget.isSome = true := by rw [hbudget]; rfl
      rw [hmetered] at hrunning hrunning'
      obtain ⟨store, hset⟩ := hrefuels hrunning n
      obtain ⟨store', hset'⟩ := hrefuels hrunning' n
      -- What is set on both sides is the same, and nothing else has changed.
      have hstate : M.state store = M.state store' := by
        rw [hoverwrites.state hrunning hset, hoverwrites.state hrunning' hset', h.state]
      have hfuel : M.fuelLeft store = M.fuelLeft store' := by
        unfold Machine.fuelLeft
        rw [hoverwrites.fuel hrunning hset, hoverwrites.fuel hrunning' hset']
      refine ⟨_, _, refuel_of_setFuel hbudget hset,
        refuel_of_setFuel (h.budget.trans hbudget) hset',
        ⟨h.id, h.linked, h.budget, hstate, ?_, ?_⟩, fun _ => hfuel⟩
      · rw [hmetered]
        exact hrunning.fuelled hset
      · rw [hmetered]
        exact hrunning'.fuelled hset'

namespace Level

/-- The machines of level twins give the same. -/
theorem enter_result (h : i.Level j) (hdetermined : M.Determined) (elapsed elapsed' : Nat)
    (f : FunctionRef) (values : List Val) :
    (i.enter elapsed f values).result = (j.enter elapsed' f values).result := by
  have hresult := hdetermined.result h.running h.running' h.alike f.index values f.slots
  simp only [enter, run, h.linked, hresult]

/-- Level twins stay level. -/
theorem enter_state (h : i.Level j) (hdetermined : M.Determined) (elapsed elapsed' : Nat)
    (f : FunctionRef) (values : List Val) :
    (i.enter elapsed f values).state.Level (j.enter elapsed' f values).state := by
  have hstore := hdetermined.store h.running h.running' h.alike f.index values f.slots
  refine ⟨⟨h.id, h.linked, h.budget, ?_, h.running.called _ _ _, ?_⟩, ?_⟩
  · simpa only [enter, run, record, h.linked] using hstore.1
  · simpa only [enter, run, record, h.linked] using h.running'.called f.index values f.slots
  · simpa only [enter, run, record, h.linked] using hstore.2

/-- The same fuel is missing of the same budget. -/
theorem consumed (h : i.Level j) : j.consumed = i.consumed := by
  unfold Instance.consumed
  rw [h.budget]
  cases hbudget : i.budget with
  | none => rfl
  | some n => simp only [h.fuel (by rw [hbudget]; rfl)]

end Level

/-- Two calls which give results that are alike, leave the same state behind, enter their machines in
the same way, and are charged the same. -/
structure Isolated (a b : Call M) : Prop where
  result : Agrees CallResult.Alike a.reply.result b.reply.result
  state : M.state b.reply.state.machine.store = M.state a.reply.state.machine.store
  entered : b.entered = a.entered
  charges : b.charges = a.charges

section Pair

/-- What a recorded call says of the call. -/
theorem Call.of_recorded {result : Except CallError CallResult} {machine : Instance M}
    {entries : List Entered} {supply : HandleSupply} {events : List Event}
    (h : a.recorded = ⟨result, ⟨(machine, entries), supply⟩, events⟩) :
    a.reply.result = result ∧ a.reply.state.machine = machine ∧ a.entered = entries := by
  rw [← a.recorded_eq_reply, Call.entered, h]
  exact ⟨rfl, rfl, rfl⟩

/-- Two calls are isolated if their machines were not entered. -/
theorem isolated_of_not_entered {e : CallError} {supply supply' : HandleSupply}
    {events events' : List Event} (htwin : a.session.machine.Twin b.session.machine)
    (ha : a.recorded = ⟨.error e, ⟨(a.session.machine, []), supply⟩, events⟩)
    (hb : b.recorded = ⟨.error e, ⟨(b.session.machine, []), supply'⟩, events'⟩) :
    Isolated a b ∧ a.reply.state.machine.Twin b.reply.state.machine := by
  obtain ⟨hresult, hmachine, hentered⟩ := Call.of_recorded ha
  obtain ⟨hresult', hmachine', hentered'⟩ := Call.of_recorded hb
  rw [hmachine, hmachine']
  refine ⟨⟨?_, ?_, ?_, ?_⟩, htwin⟩
  · rw [hresult, hresult']
    exact .error e
  · rw [hmachine, hmachine', htwin.state]
  · rw [hentered, hentered']
  · rw [Call.charges, Call.charges, Call.records, Call.records, hentered, hentered']
    rfl

/-- Two calls are isolated if their machines were level when they were entered in the same way, and the
results agree. -/
theorem isolated_of_entered {f : FunctionRef} {values : List Val}
    {outcome : Except CallError (List Val)} {result result' : Except CallError CallResult}
    {supply supply' : HandleSupply} {events events' : List Event} (hdetermined : M.Determined)
    (hid : b.session.machine.id = a.session.machine.id) (hlevel : full.Level full')
    (ha : a.recorded = ⟨result, ⟨((full.enter a.request.elapsed f values).state,
      [⟨a.session.machine.id, f, values, outcome⟩]), supply⟩, events⟩)
    (hb : b.recorded = ⟨result', ⟨((full'.enter b.request.elapsed f values).state,
      [⟨b.session.machine.id, f, values, outcome⟩]), supply'⟩, events'⟩)
    (hagrees : Agrees CallResult.Alike result result') :
    Isolated a b ∧ a.reply.state.machine.Twin b.reply.state.machine := by
  obtain ⟨hresult, hmachine, hentered⟩ := Call.of_recorded ha
  obtain ⟨hresult', hmachine', hentered'⟩ := Call.of_recorded hb
  have hbehind := hlevel.enter_state hdetermined a.request.elapsed b.request.elapsed f values
  have hsame : b.entered = a.entered := by
    rw [hentered, hentered', hid]
  rw [hmachine, hmachine']
  refine ⟨⟨?_, ?_, hsame, ?_⟩, hbehind.toTwin⟩
  · rw [hresult, hresult']
    exact hagrees
  · rw [hmachine, hmachine', hbehind.state]
  · simp only [Call.charges, Call.records, hentered, hentered', hmachine, hmachine',
      hbehind.consumed, List.map_cons, List.map_nil]

/-- A call in one of two twins is isolated from a like call in the other, and they are twins behind
it. -/
theorem isolated_call (hrefuels : M.Refuels) (hoverwrites : M.Overwrites)
    (hdetermined : M.Determined) (htwin : a.session.machine.Twin b.session.machine)
    (halike : a.request.Alike b.request) :
    Isolated a b ∧ a.reply.state.machine.Twin b.reply.state.machine := by
  obtain ⟨⟨i, supply⟩, c, args, elapsed⟩ := a
  obtain ⟨⟨j, supply'⟩, c', args', elapsed'⟩ := b
  obtain ⟨hcallable, hargs⟩ := halike
  obtain rfl : c = c' := hcallable
  -- Both calls part in the same way: at the operands, at the values for them, and at what the
  -- machine gives.
  rcases (agrees_operands c hargs).cases with ⟨e, h, h'⟩ | ⟨rs, rs', h, h', hrs⟩
  · exact isolated_of_not_entered htwin (callIn_of_operands_error _ h _)
      (callIn_of_operands_error _ h' _)
  · have hid : j.id = i.id := htwin.id
    have hsame : Boundary.lowerAll i.id rs = Boundary.lowerAll j.id rs' := by
      rw [hid]
      exact Boundary.lowerAll_alike hrs
    cases hlowered : Boundary.lowerAll i.id rs with
    | error e =>
        exact isolated_of_not_entered htwin (callIn_of_lowerAll_error _ h hlowered _)
          (callIn_of_lowerAll_error _ h' (hsame ▸ hlowered) _)
    | ok values =>
        have hlowered' : Boundary.lowerAll j.id rs' = .ok values := hsame ▸ hlowered
        obtain ⟨full, full', hfull, hfull', hlevel⟩ := htwin.refuel hrefuels hoverwrites
        have henters := hlevel.enter_result hdetermined elapsed elapsed' c.target values
        cases henter : (full.enter elapsed c.target values).result with
        | error e =>
            obtain ⟨events, ha⟩ := recorded_of_enter_error h hlowered hfull henter supply
            obtain ⟨events', hb⟩ :=
              recorded_of_enter_error h' hlowered' hfull' (henters.symm.trans henter) supply'
            exact isolated_of_entered hdetermined hid hlevel ha hb (.error e)
        | ok results =>
            obtain ⟨events, ha⟩ := recorded_of_enter_ok h hlowered hfull henter supply
            obtain ⟨events', hb⟩ :=
              recorded_of_enter_ok h' hlowered' hfull' (henters.symm.trans henter) supply'
            refine isolated_of_entered hdetermined hid hlevel ha hb ?_
            rw [hid]
            apply (Boundary.agrees_raiseAll supply supply' results).bind
            intro operands operands' hoperands
            exact agrees_decode c hoperands

/-- Calls of twins are isolated, one by one. -/
theorem isolated_calls (hrefuels : M.Refuels) (hoverwrites : M.Overwrites)
    (hdetermined : M.Determined) {requests requests' : List Request}
    (halike : List.Forall₂ Request.Alike requests requests') {s t : Session (Instance M)}
    (htwin : s.machine.Twin t.machine) :
    List.Forall₂ Isolated (calls requests s) (calls requests' t) := by
  induction halike generalizing s t with
  | nil => exact .nil
  | @cons r r' rs rs' hr hrs ih =>
      have htwin' : (⟨s, r⟩ : Call M).session.machine.Twin (⟨t, r'⟩ : Call M).session.machine :=
        htwin
      obtain ⟨hisolated, hbehind⟩ := isolated_call hrefuels hoverwrites hdetermined htwin' hr
      exact .cons hisolated (ih hbehind)

end Pair

/-- A call whose machine, if it was entered, was entered with the whole of a budget.

* `entered`: there is a store with all of this fuel and with what the store of the instance held
  before the call.  The machine gives what the function gives there, and is left as the function
  leaves it, and the charge is what is then missing of this fuel.
* `recorded`: this is what the counters have to go on, if the machine was entered. -/
structure Refuelled (limit : Option UInt64) (a : Call M) : Prop where
  entered : ∀ e ∈ a.entered, ∃ full : M.Store,
    (∀ n, limit = some n →
      M.setFuel n a.session.machine.store = .ok full ∧ M.fuel full = .ok n) ∧
    M.state full = M.state a.session.machine.store ∧
    e.result = (M.call a.session.machine.linked e.function.index e.args e.function.slots
      full).result.mapError CallError.ofFault ∧
    a.reply.state.machine.store =
      (M.call a.session.machine.linked e.function.index e.args e.function.slots full).store ∧
    ∀ r ∈ a.records, r.fuel.toNat = limit.elim 0 fun n =>
      n.toNat - ((M.fuelLeft a.reply.state.machine.store).getD 0).toNat
  recorded : a.reply.state.machine.metrics = a.session.machine.metrics.recordAll a.records

section Single

/-- A call comes to what `Called` says. -/
theorem Call.called (a : Call M) :
    a.session.machine.Called a.request.elapsed a.session.supply a.request.callable a.request.args
      a.reply.result a.reply.state a.entered := by
  rw [← a.recorded_eq_reply]
  exact called_callIn a.session.machine a.request.elapsed a.request.callable a.session.supply
    a.request.args

/-- What the store holds when a machine is refuelled is what it held before. -/
theorem refuel_full (hoverwrites : M.Overwrites)
    (hrunning : M.Running i.budget.isSome i.linked i.store) (hrefuel : i.refuel = .ok full) :
    (∀ n, i.budget = some n → M.setFuel n i.store = .ok full.store ∧
      M.fuel full.store = .ok n) ∧ M.state full.store = M.state i.store := by
  obtain ⟨store, rfl, ⟨hbudget, rfl⟩ | ⟨n, hbudget, hset⟩⟩ := refuel_eq_ok hrefuel
  · refine ⟨?_, rfl⟩
    intro n hn
    rw [hbudget] at hn
    cases hn
  · rw [hbudget] at hrunning
    refine ⟨?_, hoverwrites.state hrunning hset⟩
    intro m hm
    rw [hbudget] at hm
    cases hm
    exact ⟨hset, hoverwrites.fuel hrunning hset⟩

/-- The charge of a machine which was entered is what is missing of the budget. -/
theorem toNat_consumed_enter (i : Instance M) (elapsed : Nat) (f : FunctionRef)
    (values : List Val) :
    (i.enter elapsed f values).state.consumed.toNat = i.budget.elim 0 fun n =>
      n.toNat - ((M.fuelLeft (i.enter elapsed f values).state.store).getD 0).toNat := by
  have hbudget : (i.enter elapsed f values).state.budget = i.budget := rfl
  unfold consumed
  rw [hbudget]
  cases i.budget with
  | none => rfl
  | some n => exact toNat_fuelUsed n _

/-- What is recorded of a call is what the counters behind it have more. -/
theorem Call.metrics_reply (a : Call M) :
    a.reply.state.machine.metrics = a.session.machine.metrics.recordAll a.records := by
  rcases a.called.entered_cases with ⟨hnone, hsame⟩ | ⟨full, values, hrefuel, hentered, hmachine⟩
  · rw [records, hnone, hsame]
    rfl
  · obtain ⟨store, rfl, -⟩ := refuel_eq_ok hrefuel
    rw [records, hentered, hmachine]
    exact metrics_enter _ a.request.elapsed _ values

/-- A call is made on the budget of the instance. -/
theorem refuelled_call (hoverwrites : M.Overwrites) (a : Call M)
    (hrunning : M.Running a.session.machine.budget.isSome a.session.machine.linked
      a.session.machine.store) : Refuelled a.session.machine.budget a := by
  refine ⟨?_, a.metrics_reply⟩
  rcases a.called.entered_cases with ⟨hnone, -⟩ | ⟨full, values, hrefuel, hentered, hmachine⟩
  · simp [hnone]
  · obtain ⟨hfull, hstate⟩ := refuel_full hoverwrites hrunning hrefuel
    have hlinked : full.linked = a.session.machine.linked := (continues_refuel hrefuel).linked
    have hbudget : full.budget = a.session.machine.budget := (continues_refuel hrefuel).budget
    intro e he
    rw [hentered, List.mem_singleton] at he
    subst he
    rw [hmachine, ← hlinked, ← hbudget]
    rw [← hbudget] at hfull
    refine ⟨full.store, hfull, hstate, rfl, rfl, ?_⟩
    intro r hr
    rw [Call.records, hentered, hmachine, List.map_singleton, List.mem_singleton] at hr
    rw [hr]
    exact toNat_consumed_enter full a.request.elapsed _ values

theorem refuelled_calls (hoverwrites : M.Overwrites) (requests : List Request)
    {s : Session (Instance M)} (hbudget : s.machine.budget = limit)
    (hrunning : M.Running limit.isSome s.machine.linked s.machine.store) :
    ∀ a ∈ calls requests s, Refuelled limit a := by
  induction requests generalizing s with
  | nil => simp [calls]
  | cons r rs ih =>
      have hcontinues := (⟨s, r⟩ : Call M).called.continues.1
      intro a ha
      rcases List.mem_cons.1 ha with rfl | hrest
      · rw [← hbudget] at hrunning ⊢
        exact refuelled_call hoverwrites ⟨s, r⟩ hrunning
      · have hlinked := hcontinues.linked
        refine ih (hcontinues.budget.trans hbudget) ?_ a hrest
        rw [hlinked]
        exact hcontinues.running _ hrunning

end Single

/-- Two instances which started as the same one and hold the same answer all requests alike, whatever
became of their fuel, their counters and what they remember.  The whole of the fuel limit is there for
every call. -/
theorem calls_isolated (hrefuels : M.Refuels) (hoverwrites : M.Overwrites)
    (hdetermined : M.Determined) (h : Host M) (s : Settings) (linked : M.Linked)
    {store store' : M.Store} (hrunning : M.Running h.engine.metersFuel linked store)
    (hrunning' : M.Running h.engine.metersFuel linked store')
    (hstate : M.state store = M.state store') (metrics metrics' : Metrics)
    (cache cache' : Cache FunctionRef) (supply supply' : HandleSupply)
    {requests requests' : List Request}
    (halike : List.Forall₂ Request.Alike requests requests') :
    let limit := if h.engine.metersFuel then some s.execution.maxFuel else none
    let i := { h.newInstance s linked store with metrics := metrics, cache := cache }
    let j := { h.newInstance s linked store' with metrics := metrics', cache := cache' }
    List.Forall₂ Isolated (calls requests ⟨i, supply⟩) (calls requests' ⟨j, supply'⟩) ∧
      (∀ a ∈ calls requests ⟨i, supply⟩, Refuelled limit a) ∧
      ∀ a ∈ calls requests' ⟨j, supply'⟩, Refuelled limit a := by
  intro limit i j
  have hmetered : h.engine.metersFuel = limit.isSome := by
    simp only [limit]
    cases h.engine.metersFuel <;> rfl
  rw [hmetered] at hrunning hrunning'
  have htwin : i.Twin j := ⟨rfl, rfl, rfl, hstate, hrunning, hrunning'⟩
  exact ⟨isolated_calls hrefuels hoverwrites hdetermined halike htwin,
    refuelled_calls hoverwrites requests rfl hrunning,
    refuelled_calls hoverwrites requests' rfl hrunning'⟩

section Pass

/-- A module with a function which gives back the reference which it takes. -/
def passModule : Wasm.Module :=
  { Wasm.Module.empty with
    functions := [⟨⟨[.funcref], [.funcref]⟩, [], [.localGet 0]⟩]
    exports := [⟨"pass", .func, 0⟩] }

/-- The function of the first instance of the module. -/
def pass : Callable FunctionRef := ⟨"pass", ⟨[.ref], [.ref]⟩, .reject, ⟨⟨0⟩, 0, 1⟩⟩

/-- Pass a reference to this function itself, through a handle of some number. -/
def passThrough (number elapsed : Nat) : Request :=
  ⟨pass, [.ref (.held number (.function ⟨0⟩ 0))], elapsed⟩

/-- A store of the module with some fuel left. -/
def passStore (fuel : UInt64) : interpreter.Store :=
  (⟨EngineSettings.default.config, some fuel, .empty⟩ : Interpreter.Store)

/-- The instance, with some fuel left and some calls made. -/
def passInstance (fuel : UInt64) (metrics : Metrics) : Instance interpreter :=
  { (Host.ofEngine .interpreting).newInstance .default passModule (passStore fuel) with
    metrics := metrics, cache := .empty }

theorem running_passStore (fuel : UInt64) :
    interpreter.Running true passModule (passStore fuel) := by
  have hmade : interpreter.newEngine EngineSettings.default.config =
      .ok EngineSettings.default.config := rfl
  have hlinked : interpreter.instantiate 0 passModule (passStore 0) =
      .ok (passModule, passStore 0) := rfl
  exact (Machine.Running.linked (.made hmade) hlinked).fuelled (n := fuel) rfl

/-- A call which is short of fuel from an earlier one, and one which is the first of all. -/
theorem isolated_pass : Request.Alike (passThrough 3 8) (passThrough 0 5) ∧
    interpreter.Running true passModule (passStore 0) ∧
    interpreter.Running true passModule (passStore 40) ∧
    List.Forall₂ Isolated
      (calls [passThrough 3 8] ⟨passInstance 0 ⟨5, 2, 70, some 1⟩, ⟨9⟩⟩)
      (calls [passThrough 0 5] ⟨passInstance 40 .zero, ⟨1⟩⟩) := by
  have halike : Request.Alike (passThrough 3 8) (passThrough 0 5) :=
    ⟨rfl, .cons (.ref _ _ ⟨rfl, rfl⟩) .nil⟩
  obtain ⟨hisolated, -, -⟩ := calls_isolated Interpreter.refuels Interpreter.overwrites
    Interpreter.determined (Host.ofEngine .interpreting) .default passModule
    (running_passStore 0) (running_passStore 40) rfl ⟨5, 2, 70, some 1⟩ .zero .empty .empty ⟨9⟩ ⟨1⟩
    (.cons halike .nil)
  exact ⟨halike, running_passStore 0, running_passStore 40, hisolated⟩

/-- Both calls come back with a reference, through the next handle which is free. -/
example : (call 8 pass [.ref (.held 3 (.function ⟨0⟩ 0))]
    ⟨passInstance 0 ⟨5, 2, 70, some 1⟩, ⟨9⟩⟩).result =
      .ok (.single (.ref (.held 9 (.function ⟨0⟩ 0)))) := rfl

end Pass

end WasmCall.Instance
