import WasmCall.Proofs.Instance.Isolation

/-!
# What the log says

An instance writes down what happens to it, and it counts.  The two are done at different places,
and nevertheless tell the same story: for any lookups and calls, in any order and with any
arguments,

* a call is *completed* or *trapped* in the log as often as it is counted, and trapped as often as
  it is counted as a trap;
* a call is *dispatched* if it is counted, or if it passes a reference which belongs elsewhere;
* a call which ran out of fuel says so right before it says that it trapped;
* a function is *built* when its name is found for the first time, right behind *resolved*.

`Deed.Written` lists the deeds which there are, with what each of them writes into the log and what
it does to the instance (`written_act`).  What one deed keeps is kept by a run (`run_induction`):
the balance of log and counters (`balanced_deeds`), and what is known (`remembered_deeds`).
Everything the log has to say is in `log_matches_counters`.

A call whose fuel cannot be set would be *trapped* in the log without being counted, so all of this is
about machines where fuel can be set.
-/

namespace WasmCall

open Wasm

/-- Whether an error says that a reference belongs to another instance. -/
def CallError.isForeign : CallError → Bool
  | typeMismatch _ .ref actual => actual == "foreign reference"
  | _ => false

/-- Whether a function of a name was built. -/
def Event.builds (name : String) : Event → Bool
  | callableBuilt function _ => function == name
  | _ => false

/-- Operands which came back and are no result do not match the signature. -/
theorem Callable.decode_eq_error {ι : Type} {c : Callable ι} {operands : List Operand}
    {e : CallError} (h : c.decode operands = .error e) : ∃ reason, e = .resultMismatch reason := by
  unfold decode at h
  split at h
  · cases h
    exact ⟨_, rfl⟩
  · cases h

namespace Instance

variable {M : Machine}

/-- What may be asked of an instance. -/
inductive Activity where
  | lookUp (name : String)
  | call (elapsed : Nat) (c : Callable FunctionRef) (args : List Value)

/-- What an instance answers. -/
inductive Answer where
  | found (result : Except CallError (Callable FunctionRef))
  | returned (result : Except CallError CallResult)

/-- Look up a function, or call one. -/
def act (s : Session (Instance M)) : Activity → Reply (Session (Instance M)) Answer
  | .lookUp name =>
    ((s.machine.getFunction name).map .found).mapState fun i => ⟨i, s.supply⟩
  | .call elapsed c args => (call elapsed c args s).map .returned

/-- Something which was asked, the answer, and what was written into the log. -/
structure Deed where
  activity : Activity
  answer : Answer
  events : List Event

/-- What comes of activities, one after another. -/
def deeds : List Activity → Session (Instance M) → List Deed
  | [], _ => []
  | a :: as, s => ⟨a, (act s a).result, (act s a).events⟩ :: deeds as (act s a).state

/-- The instance behind activities. -/
def behind : List Activity → Session (Instance M) → Session (Instance M)
  | [], s => s
  | a :: as, s => behind as (act s a).state

namespace Deed

/-- A call is rejected for a reference which belongs to another instance. -/
def rejected (d : Deed) : Bool :=
  match d.answer with
  | .returned (.error e) => e.isForeign
  | _ => false

/-- A call fails because its fuel is used up. -/
def exhausted (d : Deed) : Bool :=
  match d.answer with
  | .returned (.error e) => e.isOutOfFuel
  | _ => false

/-- A name is looked up with success. -/
def finds (name : String) (d : Deed) : Bool :=
  match d.activity, d.answer with
  | .lookUp other, .found (.ok _) => other == name
  | _, _ => false

/-- The deeds which there are, from one session to the next.

* `known`, `built`, `missing`: a lookup of a name which was found before, which is found for the
  first time, and which is not found.
* `refused`: a call with arguments of the wrong number, or one of which cannot be coerced.
* `foreign`: a call which passes a reference of another instance.
* `trapped`, `completed`: a call which enters the machine, and is recorded. -/
inductive Written (s : Session (Instance M)) : Deed → Session (Instance M) → Prop
  | known (name : String) (c : Callable FunctionRef) (hold : s.machine.cache.find? name = some c) :
      Written s ⟨.lookUp name, .found (.ok c), []⟩ s
  | built (name : String) (c : Callable FunctionRef) (hnew : s.machine.cache.find? name = none)
      (signature : String) :
      Written s ⟨.lookUp name, .found (.ok c),
          [.exportResolved name signature, .callableBuilt name signature]⟩
        ⟨{ s.machine with cache := (s.machine.cache.insertIfAbsent name c).2 }, s.supply⟩
  | missing (name : String) (e : CallError) : Written s ⟨.lookUp name, .found (.error e), []⟩ s
  | refused (elapsed : Nat) (c : Callable FunctionRef) (args : List Value) (e : CallError)
      (hrefused : c.Refuses args e) : Written s ⟨.call elapsed c args, .returned (.error e), []⟩ s
  | foreign (elapsed : Nat) (c : Callable FunctionRef) (args : List Value) (k : Nat)
      (haccepted : ∃ operands, c.Accepts args operands) :
      Written s ⟨.call elapsed c args, .returned (.error (Boundary.foreign k)),
        [.dispatching c.name args.length]⟩ s
  | trapped (elapsed : Nat) (c : Callable FunctionRef) (args : List Value)
      (haccepted : ∃ operands, c.Accepts args operands) (e : CallError) (htrap : e.isTrap = true)
      (fuel : UInt64) (t : Session (Instance M))
      (hmetrics : t.machine.metrics = s.machine.metrics.record ⟨elapsed, fuel, true⟩)
      (hcache : t.machine.cache = s.machine.cache) :
      Written s ⟨.call elapsed c args, .returned (.error e), .dispatching c.name args.length ::
        (if e.isOutOfFuel then [.fuelExhausted fuel.toNat] else []) ++
          [.callTrapped c.name e.message]⟩ t
  | completed (elapsed : Nat) (c : Callable FunctionRef) (args : List Value)
      (haccepted : ∃ operands, c.Accepts args operands) (result : Except CallError CallResult)
      (hresult : ∀ e, result = .error e → ∃ reason, e = .resultMismatch reason)
      (fuel : UInt64) (t : Session (Instance M))
      (hmetrics : t.machine.metrics = s.machine.metrics.record ⟨elapsed, fuel, false⟩)
      (hcache : t.machine.cache = s.machine.cache) :
      Written s ⟨.call elapsed c args, .returned result,
        [.dispatching c.name args.length, .callCompleted fuel.toNat]⟩ t

end Deed

section Written

/-- What a machine writes into the log when it was entered. -/
theorem events_enter (i : Instance M) (elapsed : Nat) (f : FunctionRef) (values : List Val) :
    (i.enter elapsed f values).events =
      ranEvents (i.enter elapsed f values).state.consumed (i.enter elapsed f values).result := rfl

/-- A lookup is one of the deeds which there are. -/
theorem written_lookUp (s : Session (Instance M)) (name : String) :
    Deed.Written s ⟨.lookUp name, (act s (.lookUp name)).result, (act s (.lookUp name)).events⟩
      (act s (.lookUp name)).state := by
  cases hold : s.machine.cache.find? name with
  | some c =>
      have hact : act s (.lookUp name) = ⟨.found (.ok c), s, []⟩ := by
        simp only [act, getFunction_of_cached hold]
        rfl
      rw [hact]
      exact .known name c hold
  | none =>
      have hfound : act s (.lookUp name) = ((s.machine.getFunction name).map .found).mapState
          fun i => ⟨i, s.supply⟩ := rfl
      unfold getFunction at hfound
      cases hresolved : s.machine.resolved name with
      | error e =>
          have hanswer : (resolve name s.machine).result = .error e := hresolved
          rw [Exports.getFunction_of_error hold hanswer] at hfound
          have hevents : (resolve name s.machine).events = [] := by
            simp only [resolve, hresolved, resolvedEvents]
          rw [hevents] at hfound
          rw [hfound]
          exact .missing name e
      | ok r =>
          have hanswer : (resolve name s.machine).result = .ok r := hresolved
          rw [Exports.getFunction_of_ok hold hanswer] at hfound
          have hevents : (resolve name s.machine).events =
              [.exportResolved name r.signature.text] := by
            simp only [resolve, hresolved, resolvedEvents]
          rw [hevents] at hfound
          rw [hfound]
          exact .built name _ hold r.signature.text

/-- The log says nothing of results which are raised, nor of those which cannot be. -/
theorem outcomeEvents_raiseAll (c : Callable FunctionRef) (owner : InstanceId)
    (supply : HandleSupply) (results : List Val) :
    c.outcomeEvents (Boundary.raiseAll owner supply results).1 = [] := by
  rcases Boundary.raiseAll_cases owner supply results with
    ⟨raised, behind, hraise, -⟩ | ⟨reason, behind, hraise, -⟩
  · rw [hraise]
    rfl
  · rw [hraise]
    rfl

/-- What is wrong with results which came back is that they are not as declared. -/
theorem exists_mismatch_of_results {c : Callable FunctionRef} {owner : InstanceId}
    {supply : HandleSupply} {results : List Val} {e : CallError}
    (h : (Boundary.raiseAll owner supply results).1.bind c.decode = .error e) :
    ∃ reason, e = .resultMismatch reason := by
  rcases Boundary.raiseAll_cases owner supply results with
    ⟨raised, behind, hraise, -⟩ | ⟨reason, behind, hraise, -⟩
  · rw [hraise] at h
    exact Callable.decode_eq_error h
  · rw [hraise] at h
    cases h
    exact ⟨reason, rfl⟩

/-- A call is one of the deeds which there are, if fuel can be set. -/
theorem written_call (hrefuels : M.Refuels) {s : Session (Instance M)} (hs : s.machine.WellMade)
    (elapsed : Nat) (c : Callable FunctionRef) (args : List Value) :
    Deed.Written s ⟨.call elapsed c args, .returned (call elapsed c args s).result,
      (call elapsed c args s).events⟩ (call elapsed c args s).state := by
  unfold call
  -- A call ends at the operands, at the values for them, or at what the machine gives.
  cases hoperands : c.operands args with
  | error e =>
      rw [callIn_of_operands_error _ hoperands]
      exact .refused elapsed c args e ((Callable.operands_eq_error_iff c args e).1 hoperands)
  | ok operands =>
      have haccepted : ∃ operands, c.Accepts args operands :=
        ⟨operands, (Callable.operands_eq_ok_iff c args operands).1 hoperands⟩
      cases hlowered : Boundary.lowerAll s.machine.id operands with
      | error e =>
          rw [callIn_of_lowerAll_error _ hoperands hlowered]
          obtain ⟨k, g, -, -, rfl, -⟩ := Boundary.lowerAll_eq_error_iff.1 hlowered
          exact .foreign elapsed c args k haccepted
      | ok values =>
          obtain ⟨full, hrefuel⟩ := hs.exists_refuel hrefuels
          obtain ⟨store, hfull, -⟩ := refuel_eq_ok hrefuel
          have hentry : (entry elapsed).refuel s.machine = .ok full := hrefuel
          have hmetrics := metrics_enter full elapsed c.target values
          have hevents := events_enter full elapsed c.target values
          have hbefore : full.metrics = s.machine.metrics := by rw [hfull]
          have hcache : (full.enter elapsed c.target values).state.cache = s.machine.cache := by
            rw [hfull]
            rfl
          rw [hbefore] at hmetrics
          cases henter : (full.enter elapsed c.target values).result with
          | error e =>
              have htrap := isTrap_of_enter henter
              have hentered : ((entry elapsed).enter full c.target values).result = .error e :=
                henter
              rw [henter] at hmetrics hevents
              simp only [CallError.trapped, htrap] at hmetrics
              rw [callIn_of_enter_error _ hoperands hlowered hentry hentered]
              change Deed.Written s ⟨_, _, _ :: (full.enter elapsed c.target values).events ++ _⟩ _
              rw [hevents, Callable.outcomeEvents, if_pos htrap]
              exact .trapped elapsed c args haccepted e htrap _ _ hmetrics hcache
          | ok results =>
              have hentered : ((entry elapsed).enter full c.target values).result = .ok results :=
                henter
              rw [henter] at hmetrics hevents
              rw [callIn_of_enter_ok _ hoperands hlowered hentry hentered,
                outcomeEvents_raiseAll, List.append_nil]
              change Deed.Written s ⟨_, _, _ :: (full.enter elapsed c.target values).events⟩ _
              rw [hevents]
              exact .completed elapsed c args haccepted _ (fun _ => exists_mismatch_of_results)
                (full.enter elapsed c.target values).state.consumed
                ⟨(full.enter elapsed c.target values).state,
                  (Boundary.raiseAll s.machine.id s.supply results).2⟩ hmetrics hcache

/-- Whatever is asked of an instance, it comes to one of the deeds which there are. -/
theorem written_act (hrefuels : M.Refuels) {s : Session (Instance M)} (hs : s.machine.WellMade)
    (a : Activity) :
    Deed.Written s ⟨a, (act s a).result, (act s a).events⟩ (act s a).state := by
  cases a with
  | lookUp name => exact written_lookUp s name
  | call elapsed c args => exact written_call hrefuels hs elapsed c args

/-- Whatever is asked of an instance, it goes on. -/
theorem continues_act (s : Session (Instance M)) (a : Activity) :
    s.machine.Continues (act s a).state.machine := by
  cases a with
  | lookUp name => exact continues_getFunction s.machine name
  | call elapsed c args => exact (⟨s, ⟨c, args, elapsed⟩⟩ : Call M).called.continues.1

end Written

/-- All events of some deeds, in order. -/
def logOf (ds : List Deed) : List Event :=
  ds.flatMap Deed.events

/-- How many events with a message there are in a log. -/
def said (message : String) (log : List Event) : Nat :=
  log.countP (·.message == message)

theorem said_append (message : String) (log log' : List Event) :
    said message (log ++ log') = said message log + said message log' :=
  List.countP_append

@[simp] theorem said_nil (message : String) : said message [] = 0 := rfl

@[simp] theorem said_cons (message : String) (e : Event) (log : List Event) :
    said message (e :: log) = said message log + if e.message == message then 1 else 0 :=
  List.countP_cons

@[simp] theorem logOf_singleton (d : Deed) : logOf [d] = d.events :=
  List.append_nil d.events

theorem logOf_append (ds ds' : List Deed) : logOf (ds ++ ds') = logOf ds ++ logOf ds' :=
  List.flatMap_append

section Balance

/-- The log of some deeds and the counters before and behind them. -/
structure Balanced (ds : List Deed) (m m' : Metrics) : Prop where
  traps : m'.traps = m.traps + UInt64.ofNat (said "Call trapped" (logOf ds))
  calls : m'.calls = m.calls +
    UInt64.ofNat (said "Call completed" (logOf ds) + said "Call trapped" (logOf ds))
  dispatched : said "Dispatching call" (logOf ds) =
    said "Call completed" (logOf ds) + said "Call trapped" (logOf ds) + ds.countP Deed.rejected
  exhausted : said "Execution terminated: fuel exhausted" (logOf ds) = ds.countP Deed.exhausted

theorem Balanced.nil (m : Metrics) : Balanced [] m m :=
  ⟨(UInt64.add_zero _).symm, (UInt64.add_zero _).symm, rfl, rfl⟩

theorem Balanced.append {ds ds' : List Deed} {m m' m'' : Metrics} (h : Balanced ds m m')
    (h' : Balanced ds' m' m'') : Balanced (ds ++ ds') m m'' := by
  have hlog := logOf_append ds ds'
  refine ⟨?_, ?_, ?_, ?_⟩
  · rw [hlog, said_append, h'.traps, h.traps, UInt64.add_assoc, ← UInt64.ofNat_add]
  · have hsum : said "Call completed" (logOf ds ++ logOf ds') +
        said "Call trapped" (logOf ds ++ logOf ds') =
          (said "Call completed" (logOf ds) + said "Call trapped" (logOf ds)) +
            (said "Call completed" (logOf ds') + said "Call trapped" (logOf ds')) := by
      rw [said_append, said_append]
      omega
    rw [hlog, hsum, h'.calls, h.calls, UInt64.add_assoc, ← UInt64.ofNat_add]
  · have hfirst := h.dispatched
    have hrest := h'.dispatched
    rw [hlog, said_append, said_append, said_append, List.countP_append]
    omega
  · rw [hlog, said_append, List.countP_append, h.exhausted, h'.exhausted]

/-- A trap is no complaint about a reference. -/
theorem isForeign_of_isTrap {e : CallError} (h : e.isTrap = true) : e.isForeign = false := by
  cases e <;> simp_all [CallError.isTrap, CallError.isForeign]

/-- Fuel is not used up by a call which blames its arguments. -/
theorem isOutOfFuel_of_isArgumentError {e : CallError} (h : e.isArgumentError = true) :
    e.isOutOfFuel = false := by
  cases e <;> simp_all [CallError.isArgumentError, CallError.isOutOfFuel]

/-- A call whose arguments are refused does not complain about a reference. -/
theorem isForeign_of_refuses {c : Callable FunctionRef} {args : List Value} {e : CallError}
    (h : c.Refuses args e) : e.isForeign = false := by
  have hne := h.ne_foreign
  cases e with
  | typeMismatch k kind actual =>
      cases kind with
      | ref =>
          have hactual : actual ≠ "foreign reference" := by
            rintro rfl
            exact hne k .ref rfl
          simp [CallError.isForeign, hactual]
      | _ => rfl
  | _ => rfl

/-- Every deed keeps the balance. -/
theorem Deed.Written.balanced {s t : Session (Instance M)} {d : Deed} (h : d.Written s t) :
    Balanced [d] s.machine.metrics t.machine.metrics := by
  cases h with
  | known name c hold => exact ⟨by simp, by simp, rfl, rfl⟩
  | built name c hnew signature =>
      exact ⟨by simp [Event.message], by simp [Event.message], rfl, rfl⟩
  | missing name e => exact ⟨by simp, by simp, rfl, rfl⟩
  | refused elapsed c args e hrefused =>
      have hforeign := isForeign_of_refuses hrefused
      have hfuel := isOutOfFuel_of_isArgumentError hrefused.isArgumentError
      refine ⟨by simp, by simp, ?_, ?_⟩
      · simp [rejected, hforeign]
      · simp [exhausted, hfuel]
  | foreign elapsed c args k haccepted =>
      refine ⟨by simp [Event.message], by simp [Event.message], ?_, ?_⟩
      · simp [rejected, Event.message, Boundary.foreign, CallError.isForeign]
      · simp [exhausted, Event.message, Boundary.foreign, CallError.isOutOfFuel]
  | trapped elapsed c args haccepted e htrap fuel t hmetrics hcache =>
      have hforeign := isForeign_of_isTrap htrap
      rw [hmetrics]
      cases hfuel : e.isOutOfFuel with
      | true =>
          refine ⟨?_, ?_, ?_, ?_⟩ <;>
            simp [rejected, exhausted, Event.message, Metrics.record, hforeign, hfuel]
      | false =>
          refine ⟨?_, ?_, ?_, ?_⟩ <;>
            simp [rejected, exhausted, Event.message, Metrics.record, hforeign, hfuel]
  | completed elapsed c args haccepted result hresult fuel t hmetrics hcache =>
      rw [hmetrics]
      cases result with
      | ok r =>
          refine ⟨?_, ?_, ?_, ?_⟩ <;> simp [rejected, exhausted, Event.message, Metrics.record]
      | error e =>
          obtain ⟨reason, rfl⟩ := hresult e rfl
          refine ⟨?_, ?_, ?_, ?_⟩ <;>
            simp [rejected, exhausted, Event.message, Metrics.record, CallError.isForeign,
              CallError.isOutOfFuel]

/-- What holds of no deed, and of one deed more whenever it holds of some, holds of a run. -/
theorem run_induction {P : List Deed → Session (Instance M) → Session (Instance M) → Prop}
    (nil : ∀ s, P [] s s)
    (cons : ∀ {d ds s t u}, Deed.Written s d t → P ds t u → P (d :: ds) s u)
    (hrefuels : M.Refuels) (as : List Activity) {s : Session (Instance M)}
    (hs : s.machine.WellMade) : P (deeds as s) s (behind as s) := by
  induction as generalizing s with
  | nil => exact nil s
  | cons a as ih =>
      exact cons (written_act hrefuels hs a) (ih (hs.continues (continues_act s a)))

theorem balanced_deeds (hrefuels : M.Refuels) (as : List Activity) {s : Session (Instance M)}
    (hs : s.machine.WellMade) :
    Balanced (deeds as s) s.machine.metrics (behind as s).machine.metrics :=
  run_induction (P := fun ds s t => Balanced ds s.machine.metrics t.machine.metrics)
    (fun s => .nil s.machine.metrics) (fun hd h => hd.balanced.append h) hrefuels as hs

theorem written_deeds (hrefuels : M.Refuels) (as : List Activity) {s : Session (Instance M)}
    (hs : s.machine.WellMade) :
    ∀ d ∈ deeds as s, ∃ t u : Session (Instance M), Deed.Written t d u := by
  refine run_induction
    (P := fun ds _ _ => ∀ d ∈ ds, ∃ t u : Session (Instance M), Deed.Written t d u)
    (by simp) ?_ hrefuels as hs
  intro d ds s t u hd h
  exact List.forall_mem_cons.2 ⟨⟨s, t, hd⟩, h⟩

end Balance

section Order

variable {ds : List Deed} {l r : List Event} {e : Event}

/-- An event in a log was written by one of the deeds. -/
theorem exists_deed_of_logOf_eq (h : logOf ds = l ++ e :: r) :
    ∃ before d after l' r', ds = before ++ d :: after ∧ d.events = l' ++ e :: r' ∧
      l = logOf before ++ l' ∧ r = r' ++ logOf after := by
  induction ds generalizing l with
  | nil => simp [logOf] at h
  | cons d ds ih =>
      have hcons : d.events ++ logOf ds = l ++ e :: r := h
      rcases List.append_eq_append_iff.1 hcons with ⟨rest, rfl, hrest⟩ | ⟨rest, hevents, hrest⟩
      · obtain ⟨before, d', after, l', r', rfl, hd, rfl, rfl⟩ := ih hrest
        exact ⟨d :: before, d', after, l', r', rfl, hd, (List.append_assoc ..).symm, rfl⟩
      · cases rest with
        | nil =>
            obtain ⟨before, d', after, l', r', rfl, hd, hl, rfl⟩ := ih (l := []) hrest.symm
            refine ⟨d :: before, d', after, l', r', rfl, hd, ?_, rfl⟩
            have hlog : logOf (d :: before) ++ l' = d.events ++ (logOf before ++ l') :=
              List.append_assoc ..
            rw [hlog, ← hl, hevents, List.append_nil, List.append_nil]
        | cons first rest =>
            obtain ⟨rfl, rfl⟩ := List.cons.inj hrest
            exact ⟨[], d, ds, l, rest, rfl, hevents, rfl, rfl⟩

/-- Where it is written that fuel is used up: behind *dispatching* and before *trapped*. -/
theorem Deed.Written.fuelExhausted {s t : Session (Instance M)} {d : Deed} (h : Deed.Written s d t)
    {fuel : Nat} (hevents : d.events = l ++ .fuelExhausted fuel :: r) :
    ∃ elapsed c args error, d.activity = .call elapsed c args ∧
      d.answer = .returned (.error error) ∧ error.isOutOfFuel = true ∧
      l = [.dispatching c.name args.length] ∧ r = [.callTrapped c.name error.message] := by
  cases h with
  | trapped elapsed c args haccepted error htrap consumed t hmetrics hcache =>
      cases hfuel : error.isOutOfFuel with
      | false => simp [hfuel, List.cons_eq_append_iff] at hevents
      | true =>
          have hsplit : l = [.dispatching c.name args.length] ∧ fuel = consumed.toNat ∧
              r = [.callTrapped c.name error.message] := by
            simpa [hfuel, List.cons_eq_append_iff] using hevents
          exact ⟨elapsed, c, args, error, rfl, rfl, hfuel, hsplit.1, hsplit.2.2⟩
  | _ => simp [List.cons_eq_append_iff] at hevents

/-- Where it is written that a function is built: behind *resolved*. -/
theorem Deed.Written.callableBuilt {s t : Session (Instance M)} {d : Deed} (h : Deed.Written s d t)
    {name text : String} (hevents : d.events = l ++ .callableBuilt name text :: r) :
    d.finds name = true ∧ l = [.exportResolved name text] ∧ r = [] := by
  cases h with
  | built other c hnew signature =>
      have hsplit : l = [.exportResolved other signature] ∧ (name = other ∧ text = signature) ∧
          r = [] := by
        simpa [List.cons_eq_append_iff] using hevents
      obtain ⟨hl, ⟨rfl, rfl⟩, hr⟩ := hsplit
      exact ⟨by simp [finds], hl, hr⟩
  | trapped elapsed c args haccepted error htrap consumed t hmetrics hcache =>
      cases hfuel : error.isOutOfFuel <;> simp [hfuel, List.cons_eq_append_iff] at hevents
  | _ => simp [List.cons_eq_append_iff] at hevents

/-- A call whose arguments are refused comes back with the reason, and writes nothing. -/
theorem Deed.Written.silent {s t : Session (Instance M)} {d : Deed} (h : Deed.Written s d t)
    {elapsed : Nat} {c : Callable FunctionRef} {args : List Value} {error : CallError}
    (hcall : d.activity = .call elapsed c args) (hrefused : c.Refuses args error) :
    d.answer = .returned (.error error) ∧ d.events = [] := by
  have hnone : ¬∃ operands, c.Accepts args operands :=
    fun ⟨operands, haccepts⟩ => hrefused.not_accepts operands haccepts
  cases h with
  | refused elapsed' c' args' error' hrefused' =>
      obtain ⟨-, rfl, rfl⟩ := Activity.call.inj hcall
      have hsame := (Callable.operands_eq_error_iff c' args' error').2 hrefused'
      rw [(Callable.operands_eq_error_iff c' args' error).2 hrefused, Except.error.injEq] at hsame
      exact ⟨by rw [hsame], rfl⟩
  | known | built | missing => cases hcall
  | foreign elapsed' c' args' k haccepted =>
      obtain ⟨-, rfl, rfl⟩ := Activity.call.inj hcall
      exact absurd haccepted hnone
  | trapped elapsed' c' args' haccepted =>
      obtain ⟨-, rfl, rfl⟩ := Activity.call.inj hcall
      exact absurd haccepted hnone
  | completed elapsed' c' args' haccepted =>
      obtain ⟨-, rfl, rfl⟩ := Activity.call.inj hcall
      exact absurd haccepted hnone

end Order

section Remembered

/-- Whether a name was found before. -/
def knows (name : String) (s : Session (Instance M)) : Bool :=
  (s.machine.cache.find? name).isSome

/-- A function is built when its name is found for the first time, and known from then on. -/
structure Remembered (name : String) (ds : List Deed) (s t : Session (Instance M)) : Prop where
  built : (logOf ds).countP (Event.builds name) + (knows name s).toNat = (knows name t).toNat
  known : knows name t = (knows name s || ds.any (Deed.finds name))

theorem Remembered.nil (name : String) (s : Session (Instance M)) : Remembered name [] s s :=
  ⟨Nat.zero_add _, (Bool.or_false _).symm⟩

theorem Remembered.append {name : String} {ds ds' : List Deed} {s t u : Session (Instance M)}
    (h : Remembered name ds s t) (h' : Remembered name ds' t u) :
    Remembered name (ds ++ ds') s u where
  built := by
    have hfirst := h.built
    have hrest := h'.built
    rw [logOf_append, List.countP_append]
    omega
  known := by rw [h'.known, h.known, List.any_append, Bool.or_assoc]

theorem Deed.Written.remembered {s t : Session (Instance M)} {d : Deed} (h : Deed.Written s d t)
    (name : String) : Remembered name [d] s t := by
  cases h with
  | known other c hold =>
      refine ⟨by simp, ?_⟩
      -- Only the name which is known is looked up, so nothing is new.
      have hfinds : finds name ⟨.lookUp other, .found (.ok c), []⟩ = (other == name) := rfl
      rw [List.any_cons, List.any_nil, Bool.or_false, hfinds]
      by_cases hname : other = name
      · have hknows : knows name s = true := by rw [← hname, knows, hold, Option.isSome_some]
        rw [hknows, Bool.true_or]
      · rw [beq_false_of_ne hname, Bool.or_false]
  | built other c hnew signature =>
      have hbehind : knows name ⟨{ s.machine with
          cache := (s.machine.cache.insertIfAbsent other c).2 }, s.supply⟩ =
            (knows name s || other == name) := by
        rw [knows, knows, Cache.find?_insertIfAbsent, Option.isSome_or]
        by_cases hname : name = other
        · simp [hname]
        · simp [hname, Ne.symm hname]
      refine ⟨?_, ?_⟩
      · rw [hbehind]
        by_cases hname : other = name
        · have hknows : knows name s = false := by rw [← hname, knows, hnew, Option.isSome_none]
          simp [Event.builds, hname, hknows]
        · rw [beq_false_of_ne hname, Bool.or_false]
          simp [Event.builds, hname]
      · rw [hbehind]
        simp [finds]
  | missing other e => exact ⟨by simp, by simp [finds]⟩
  | refused elapsed c args e hrefused => exact ⟨by simp, by simp [finds]⟩
  | foreign elapsed c args k haccepted => exact ⟨by simp [Event.builds], by simp [finds]⟩
  | trapped elapsed c args haccepted e htrap fuel t hmetrics hcache =>
      have hsame : knows name t = knows name s := by rw [knows, hcache, knows]
      refine ⟨?_, by simp [finds, hsame]⟩
      cases e.isOutOfFuel <;> simp [Event.builds, hsame]
  | completed elapsed c args haccepted result hresult fuel t hmetrics hcache =>
      have hsame : knows name t = knows name s := by rw [knows, hcache, knows]
      exact ⟨by simp [Event.builds, hsame], by simp [finds, hsame]⟩

theorem remembered_deeds (name : String) (hrefuels : M.Refuels) (as : List Activity)
    {s : Session (Instance M)} (hs : s.machine.WellMade) :
    Remembered name (deeds as s) s (behind as s) :=
  run_induction (P := Remembered name) (.nil name)
    (fun hd h => (hd.remembered name).append h) hrefuels as hs

end Remembered

/-- A log and the counters tell the same story of some deeds.

* `traps`, `calls`: a call is counted as often as it is *completed* or *trapped* in the log.  The
  counters go round at the end of their range, and the log does not.
* `dispatched`: a call is *dispatched* if it is completed, or trapped, or rejected for a reference.
* `few`: before the counters go round, they are these numbers.
* `exhausted`, `exhaustedIn`: a call whose fuel is used up says so, between *dispatching* and
  *trapped*, and no other call does.
* `built`, `builtIn`: a function is *built* once if its name is found at all, in a lookup which
  finds it, right behind *resolved*.
* `silent`: a call with arguments which are refused writes nothing. -/
structure Told (ds : List Deed) (m : Metrics) : Prop where
  traps : m.traps = UInt64.ofNat (said "Call trapped" (logOf ds))
  calls : m.calls =
    UInt64.ofNat (said "Call completed" (logOf ds) + said "Call trapped" (logOf ds))
  dispatched : said "Dispatching call" (logOf ds) =
    said "Call completed" (logOf ds) + said "Call trapped" (logOf ds) + ds.countP Deed.rejected
  few : said "Call completed" (logOf ds) + said "Call trapped" (logOf ds) < UInt64.size →
    m.traps.toNat = said "Call trapped" (logOf ds) ∧
    m.calls.toNat = said "Call completed" (logOf ds) + said "Call trapped" (logOf ds) ∧
    said "Dispatching call" (logOf ds) = m.calls.toNat + ds.countP Deed.rejected
  exhausted : said "Execution terminated: fuel exhausted" (logOf ds) = ds.countP Deed.exhausted
  exhaustedIn : ∀ l fuel r, logOf ds = l ++ .fuelExhausted fuel :: r →
    ∃ before d after elapsed c args e, ds = before ++ d :: after ∧
      d.activity = .call elapsed c args ∧ d.answer = .returned (.error e) ∧ e.isOutOfFuel = true ∧
      l = logOf before ++ [.dispatching c.name args.length] ∧
      r = .callTrapped c.name e.message :: logOf after
  built : ∀ name, (logOf ds).countP (Event.builds name) =
    if ∃ d ∈ ds, d.finds name = true then 1 else 0
  builtIn : ∀ l name text r, logOf ds = l ++ .callableBuilt name text :: r →
    ∃ before d after, ds = before ++ d :: after ∧ d.finds name = true ∧
      l = logOf before ++ [.exportResolved name text] ∧ r = logOf after
  silent : ∀ d ∈ ds, ∀ elapsed c args e, d.activity = .call elapsed c args → c.Refuses args e →
    d.answer = .returned (.error e) ∧ d.events = []

theorem take_deeds (n : Nat) (as : List Activity) (s : Session (Instance M)) :
    (deeds as s).take n = deeds (as.take n) s := by
  induction as generalizing n s with
  | nil => simp [deeds]
  | cons a as ih =>
      cases n with
      | zero => rfl
      | succ n => simp only [deeds, List.take_succ_cons, ih]

/-- A function is built once if its name is found at all, for an instance which has found nothing. -/
theorem built_deeds (hrefuels : M.Refuels) (as : List Activity) {s : Session (Instance M)}
    (hs : s.machine.WellMade) (hcache : s.machine.cache = .empty) (name : String) :
    (logOf (deeds as s)).countP (Event.builds name) =
      if ∃ d ∈ deeds as s, d.finds name = true then 1 else 0 := by
  have hremembered := remembered_deeds name hrefuels as hs
  have hnew : knows name s = false := by rw [knows, hcache]; rfl
  have hknown : knows name (behind as s) = (deeds as s).any (Deed.finds name) := by
    rw [hremembered.known, hnew, Bool.false_or]
  -- What is known behind the deeds was built in one of them, as nothing was known before.
  have hbuilt := hremembered.built
  rw [hknown, hnew, Bool.toNat_false, Nat.add_zero] at hbuilt
  rw [hbuilt]
  simp only [← List.any_eq_true]
  cases (deeds as s).any (Deed.finds name) <;> rfl

/-- The counters of an instance which had counted nothing, as far as they go. -/
theorem Balanced.counted {ds : List Deed} {m : Metrics} (h : Balanced ds .zero m) :
    m.traps = UInt64.ofNat (said "Call trapped" (logOf ds)) ∧
      m.calls =
        UInt64.ofNat (said "Call completed" (logOf ds) + said "Call trapped" (logOf ds)) :=
  ⟨h.traps.trans (UInt64.zero_add _), h.calls.trans (UInt64.zero_add _)⟩

/-- What is told of an instance which has counted nothing and found nothing. -/
theorem told_deeds (hrefuels : M.Refuels) (as : List Activity) {s : Session (Instance M)}
    (hs : s.machine.WellMade) (hmetrics : s.machine.metrics = .zero)
    (hcache : s.machine.cache = .empty) :
    Told (deeds as s) (behind as s).machine.metrics := by
  have hbalanced := balanced_deeds hrefuels as hs
  have hwritten := written_deeds hrefuels as hs
  rw [hmetrics] at hbalanced
  obtain ⟨htraps, hcalls⟩ := hbalanced.counted
  refine ⟨htraps, hcalls, hbalanced.dispatched, ?_, hbalanced.exhausted, ?_,
    built_deeds hrefuels as hs hcache, ?_, ?_⟩
  · intro hfew
    have hcount := hcalls ▸ UInt64.toNat_ofNat_of_lt' hfew
    refine ⟨?_, hcount, by rw [hcount, hbalanced.dispatched]⟩
    rw [htraps, UInt64.toNat_ofNat_of_lt' (by omega)]
  -- A line of the log stands among those of the deed which wrote it.
  · intro l fuel r hlog
    obtain ⟨before, d, after, l', r', hds, hd, rfl, rfl⟩ := exists_deed_of_logOf_eq hlog
    obtain ⟨t, u, hdeed⟩ := hwritten d (by simp [hds])
    obtain ⟨elapsed, c, args, e, hactivity, hanswer, hfuel, rfl, rfl⟩ := hdeed.fuelExhausted hd
    exact ⟨before, d, after, elapsed, c, args, e, hds, hactivity, hanswer, hfuel, rfl, rfl⟩
  · intro l name text r hlog
    obtain ⟨before, d, after, l', r', hds, hd, rfl, rfl⟩ := exists_deed_of_logOf_eq hlog
    obtain ⟨t, u, hdeed⟩ := hwritten d (by simp [hds])
    obtain ⟨hfinds, rfl, rfl⟩ := hdeed.callableBuilt hd
    exact ⟨before, d, after, hds, hfinds, rfl, rfl⟩
  · intro d hd elapsed c args e hcall hrefused
    obtain ⟨t, u, hdeed⟩ := hwritten d hd
    exact hdeed.silent hcall hrefused

/-- The log of an instance agrees with its counters after any number of activities, whatever the
module is and whatever is asked. -/
theorem log_matches_counters (hrefuels : M.Refuels) (h : Host M) (s : Settings)
    {linked : M.Linked} {store : M.Store} (hrunning : M.Running h.engine.metersFuel linked store)
    (supply : HandleSupply) (as : List Activity) (n : Nat) :
    let fresh : Session (Instance M) := ⟨h.newInstance s linked store, supply⟩
    Told ((deeds as fresh).take n) (behind (as.take n) fresh).machine.metrics := by
  intro fresh
  have hmetered : (h.engine.budget s.execution).isSome = h.engine.metersFuel := by
    unfold Engine.budget
    cases h.engine.metersFuel <;> rfl
  have hwell : fresh.machine.WellMade := by
    refine ⟨?_, by simp [fresh, Host.newInstance]⟩
    change M.Running (h.engine.budget s.execution).isSome linked store
    rw [hmetered]
    exact hrunning
  rw [take_deeds]
  exact told_deeds hrefuels (as.take n) hwell rfl rfl

/-- A function is looked up twice and called, with an argument which is fitting, one which is not, and
a reference of another instance. -/
def passActivities : List Activity :=
  [.lookUp "pass", .lookUp "pass", .call 4 pass [.ref .null], .call 2 pass [.bool true],
    .call 6 pass [.ref (.held 3 (.function ⟨1⟩ 0))]]

/-- All of this, on the interpreter. -/
theorem told_pass : interpreter.Running true passModule (passStore 40) ∧
    Told (deeds passActivities ⟨passInstance 40 .zero, .full⟩)
      (behind passActivities ⟨passInstance 40 .zero, .full⟩).machine.metrics := by
  have hrunning := running_passStore 40
  exact ⟨hrunning, log_matches_counters Interpreter.refuels (Host.ofEngine .interpreting) .default
    hrunning .full passActivities 5⟩

end Instance

end WasmCall
