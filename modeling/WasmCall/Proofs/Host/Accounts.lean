import WasmCall.Proofs.Host.Origin
import WasmCall.Proofs.Instance.Charge

/-!
# The accounts of an instance

The counters of an instance are an account of the calls which its machine was entered for, and of
nothing else that happens.  The account is kept in terms of the run alone:

* `Step.Admitted`: a call of a function of the instance, whose arguments were admitted,
* `Step.Trapped`: a call of such a function which came back with a trap,
* `spent`: what was missing of the full budget behind the admitted calls, in all.

An instance which lives behind an action is as before up to what it remembers, or it was made just
now, or a function of it was called.  The account is right in each case (`Account`), so it is right in
every run (`Run.audited`).  `Accounted` is what this means for the counters, and
`Run.metrics_accounted` says that it holds in every run on a machine whose fuel can be set and told.
-/

namespace WasmCall.Host

variable {M : Machine} {h : Host M} {i j : Instance M} {past : List (Step M)}
  {c : Callable FunctionRef} {elapsed : Nat} {args : List Value} {step : Step M} {id : InstanceId}
  {e : Engine M} {s : Settings} {maxFuel : UInt64}

namespace Step

/-- A function of an instance is called with arguments which are admitted. -/
def Admitted (id : InstanceId) (step : Step M) : Prop :=
  match step.action with
  | .call _ c args => c.target.owner = id ∧ Instance.Admits id c args
  | _ => False

/-- A function of an instance is called, and the call comes back with a trap. -/
def Trapped (id : InstanceId) (step : Step M) : Prop :=
  match step.action with
  | .call elapsed c args =>
    c.target.owner = id ∧ CallError.trapped (step.host.call elapsed c args).result = true
  | _ => False

instance (id : InstanceId) (step : Step M) : Decidable (step.Admitted id) :=
  match step with
  | ⟨_, .call _ c args⟩ =>
    inferInstanceAs (Decidable (c.target.owner = id ∧ Instance.Admits id c args))
  | ⟨_, .instantiate _ _⟩ | ⟨_, .release _⟩ | ⟨_, .wrap _⟩ | ⟨_, .lookUp _ _⟩ | ⟨_, .list _⟩ =>
    inferInstanceAs (Decidable False)

instance (id : InstanceId) (step : Step M) : Decidable (step.Trapped id) :=
  match step with
  | ⟨h, .call elapsed c args⟩ =>
    inferInstanceAs (Decidable (c.target.owner = id ∧
      CallError.trapped (h.call elapsed c args).result = true))
  | ⟨_, .instantiate _ _⟩ | ⟨_, .release _⟩ | ⟨_, .wrap _⟩ | ⟨_, .lookUp _ _⟩ | ⟨_, .list _⟩ =>
    inferInstanceAs (Decidable False)

/-- How the machine of an instance is entered in a step. -/
def entries (id : InstanceId) (step : Step M) : List Instance.Entered :=
  match step.action with
  | .call elapsed c args => if c.target.owner = id then step.host.entries elapsed c args else []
  | _ => []

/-- What is missing of the full budget of an instance behind a step. -/
def used (maxFuel : UInt64) (id : InstanceId) (step : Step M) : Nat :=
  match (step.host.perform step.action).find? id with
  | some i => i.used maxFuel
  | none => 0

/-- An instance was made with settings. -/
inductive Instantiates : Step M → Settings → InstanceId → Prop
  | mk (h : Host M) (m : CompiledModule M) (s : Settings) (id : InstanceId)
      (hmade : (h.instantiate m s).result = .ok id) : Instantiates ⟨h, .instantiate m s⟩ s id

theorem Admitted.calls (h : step.Admitted id) : step.Calls id := by
  obtain ⟨host, action⟩ := step
  cases action with
  | call elapsed c args => exact ⟨elapsed, c, args, rfl, h.1⟩
  | _ => exact h.elim

theorem Trapped.calls (h : step.Trapped id) : step.Calls id := by
  obtain ⟨host, action⟩ := step
  cases action with
  | call elapsed c args => exact ⟨elapsed, c, args, rfl, h.1⟩
  | _ => exact h.elim

/-- No machine of an instance is entered unless a function of it is called. -/
theorem entries_of_not_calls (h : ¬ step.Calls id) : step.entries id = [] := by
  obtain ⟨host, action⟩ := step
  cases action with
  | call elapsed c args =>
      have hother : c.target.owner ≠ id := fun howner => h ⟨elapsed, c, args, rfl, howner⟩
      exact if_neg hother
  | _ => rfl

end Step

/-- What was missing of the full budget of an instance behind each of the admitted calls, in all. -/
def spent (maxFuel : UInt64) (id : InstanceId) : List (Step M) → Nat
  | [] => 0
  | step :: past =>
    spent maxFuel id past + if step.Admitted id then step.used maxFuel id else 0

/-- The account of an instance which was made with some settings is right.

* `entered`: the machine was entered for the admitted calls.
* `trapped`: a call which came back with a trap was admitted.
* `metered`: there is fuel left behind an admitted call, even if it is none, if fuel is metered, and
  there is a budget only then. -/
structure Account (e : Engine M) (past : List (Step M)) (s : Settings) (i : Instance M) : Prop where
  made : ∃ step ∈ past, step.Instantiates s i.id
  budget : i.budget = e.budget s.execution
  tallied : i.metrics.Tallied (past.countP (Step.Admitted i.id ·))
    (past.countP (Step.Trapped i.id ·)) (spent s.execution.maxFuel i.id past)
  entered : (past.flatMap (Step.entries i.id)).length = past.countP (Step.Admitted i.id ·)
  trapped : ∀ step ∈ past, step.Trapped i.id → step.Admitted i.id
  metered : ∀ step ∈ past, step.Admitted i.id →
    ∃ j, (step.host.perform step.action).find? i.id = some j ∧ j.budget.isSome = e.metersFuel ∧
      (e.metersFuel = true → ∃ left, M.fuelLeft j.store = some left)

section Account

/-- A budget is what the settings allow. -/
theorem Account.eq_maxFuel (ha : Account e past s i) {n : UInt64} (hn : i.budget = some n) :
    n = s.execution.maxFuel := by
  rw [ha.budget, Engine.budget] at hn
  split at hn
  · exact (Option.some.inj hn).symm
  · cases hn

/-- There is a budget if and only if fuel is metered. -/
theorem Account.isSome_budget (ha : Account e past s i) : i.budget.isSome = e.metersFuel := by
  rw [ha.budget, Engine.budget]
  cases e.metersFuel <;> rfl

/-- A step in which the machine of an instance is not entered leaves its account as it is. -/
theorem Account.idle (ha : Account e past s i) (hadmitted : ¬ step.Admitted i.id)
    (htrapped : ¬ step.Trapped i.id) (hentries : step.entries i.id = [])
    (cache : Cache FunctionRef) : Account e (step :: past) s { i with cache := cache } := by
  have hcalls : (step :: past).countP (Step.Admitted i.id ·) =
      past.countP (Step.Admitted i.id ·) := by
    simp [hadmitted]
  have htraps : (step :: past).countP (Step.Trapped i.id ·) =
      past.countP (Step.Trapped i.id ·) := by
    simp [htrapped]
  obtain ⟨made, hmade, hsettings⟩ := ha.made
  refine ⟨⟨made, List.mem_cons_of_mem _ hmade, hsettings⟩, ha.budget, ?_, ?_, ?_, ?_⟩
  · rw [hcalls, htraps, spent, if_neg hadmitted]
    exact ha.tallied
  · rw [hcalls, List.flatMap_cons, hentries]
    exact ha.entered
  · intro step' hstep' h
    rcases List.mem_cons.1 hstep' with rfl | hpast
    · exact absurd h htrapped
    · exact ha.trapped step' hpast h
  · intro step' hstep' h
    rcases List.mem_cons.1 hstep' with rfl | hpast
    · exact absurd h hadmitted
    · exact ha.metered step' hpast h

/-- Nothing is counted for an instance of which no function was called. -/
theorem counts_of_not_calls (hnone : ∀ step ∈ past, ¬ step.Calls id) (maxFuel : UInt64) :
    past.countP (Step.Admitted id ·) = 0 ∧ past.countP (Step.Trapped id ·) = 0 ∧
      spent maxFuel id past = 0 ∧ past.flatMap (Step.entries id) = [] := by
  induction past with
  | nil => exact ⟨rfl, rfl, rfl, rfl⟩
  | cons step past ih =>
      have hstep : ¬ step.Calls id := hnone step List.mem_cons_self
      have hadmitted : ¬ step.Admitted id := fun h => hstep h.calls
      have htrapped : ¬ step.Trapped id := fun h => hstep h.calls
      obtain ⟨hcalls, htraps, hspent, hentries⟩ :=
        ih fun step' hstep' => hnone step' (List.mem_cons_of_mem _ hstep')
      refine ⟨?_, ?_, ?_, ?_⟩
      · simpa [hadmitted] using hcalls
      · simpa [htrapped] using htraps
      · rw [spent, if_neg hadmitted, hspent]
      · rw [List.flatMap_cons, Step.entries_of_not_calls hstep, hentries]
        rfl

/-- Nothing has happened yet to an instance which was just made. -/
theorem account_newInstance {linked : M.Linked} {store : M.Store}
    (hengine : h.engine = e) (hnone : ∀ step ∈ past, ¬ step.Calls ⟨h.made⟩)
    (hmade : ∃ step ∈ past, step.Instantiates s ⟨h.made⟩) :
    Account e past s (h.newInstance s linked store) := by
  obtain ⟨hcalls, htraps, hspent, hentries⟩ := counts_of_not_calls hnone s.execution.maxFuel
  refine ⟨hmade, by rw [← hengine]; rfl, ?_, ?_, ?_, ?_⟩
  · change Metrics.Tallied (past.countP (Step.Admitted ⟨h.made⟩ ·))
      (past.countP (Step.Trapped ⟨h.made⟩ ·)) (spent s.execution.maxFuel ⟨h.made⟩ past) .zero
    rw [hcalls, htraps, hspent]
    exact Metrics.tallied_zero
  · exact (congrArg List.length hentries).trans hcalls.symm
  · intro step hstep htrapped
    exact absurd htrapped.calls (hnone step hstep)
  · intro step hstep hadmitted
    exact absurd hadmitted.calls (hnone step hstep)

/-- A step in which the machine of an instance is entered is put into its account. -/
theorem Account.charge (ha : Account e past s i) (hid : j.id = i.id) (hbudget : j.budget = i.budget)
    (hadmitted : step.Admitted i.id) (hentries : (step.entries i.id).length = 1)
    {result : Except CallError CallResult}
    (htraps : step.Trapped i.id ↔ CallError.trapped result = true)
    (hcharged : i.Charged elapsed j result)
    (hbehind : (step.host.perform step.action).find? i.id = some j) :
    Account e (step :: past) s j where
  made := by
    obtain ⟨made, hmade, hsettings⟩ := ha.made
    rw [hid]
    exact ⟨made, List.mem_cons_of_mem _ hmade, hsettings⟩
  budget := hbudget.trans ha.budget
  tallied := by
    have hfuel := hcharged.consumed s.execution.maxFuel fun n hn =>
      ha.eq_maxFuel (hbudget.symm.trans hn)
    have hused : step.used s.execution.maxFuel i.id = j.consumed.toNat := by
      rw [Step.used, hbehind, hfuel]
    have htally := ha.tallied.record ⟨elapsed, j.consumed, CallError.trapped result⟩
    rw [hid, hcharged.metrics]
    simpa [List.countP_cons, hadmitted, htraps, spent, hused] using htally
  entered := by
    rw [hid, List.flatMap_cons, List.length_append, hentries, ha.entered]
    simp [hadmitted, Nat.add_comm]
  trapped := by
    rw [hid]
    intro step' hstep' htrapped
    rcases List.mem_cons.1 hstep' with rfl | hpast
    · exact hadmitted
    · exact ha.trapped step' hpast htrapped
  metered := by
    rw [hid]
    intro step' hstep' hadmitted'
    rcases List.mem_cons.1 hstep' with rfl | hpast
    · have hmeters : j.budget.isSome = e.metersFuel := by rw [hbudget, ha.isSome_budget]
      exact ⟨j, hbehind, hmeters, fun hon => hcharged.gauged (hmeters.trans hon)⟩
    · exact ha.metered step' hpast hadmitted'

/-- A call of a function of an instance is put into its account if it was admitted. -/
theorem Account.called (ha : Account e past s i) (howner : c.target.owner = i.id)
    (hi : i.WellMade) (hrefuels : M.Refuels) (hgauges : M.Gauges)
    {t : Instance.Session (Instance M)}
    (hcalled : i.Called elapsed h.supply c args (h.call elapsed c args).result t
      (h.entries elapsed c args))
    (hbehind : (h.perform (.call elapsed c args)).find? i.id = some t.machine) :
    Account e (⟨h, .call elapsed c args⟩ :: past) s t.machine := by
  have hadmits : Step.Admitted i.id ⟨h, .call elapsed c args⟩ ↔ Instance.Admits i.id c args :=
    and_iff_right howner
  have htraps : Step.Trapped i.id ⟨h, .call elapsed c args⟩ ↔
      CallError.trapped (h.call elapsed c args).result = true := and_iff_right howner
  have hentries : Step.entries i.id ⟨h, .call elapsed c args⟩ = h.entries elapsed c args :=
    if_pos howner
  rcases hcalled.charge_cases hi hrefuels hgauges with
    ⟨hno, hnone, hmachine, hfine⟩ | ⟨hyes, hone, hcharged⟩
  · rw [hmachine]
    refine ha.idle (fun h => hno (hadmits.1 h)) ?_ (hentries.trans hnone) i.cache
    intro htrapped
    rw [htraps, hfine] at htrapped
    cases htrapped
  · have hcontinues := hcalled.continues.1
    exact ha.charge hcontinues.id hcontinues.budget (hadmits.2 hyes) (by rw [hentries, hone]) htraps
      hcharged hbehind

end Account

/-- The invariant of a run: the host keeps its engine, no function of an instance is called before it
was made, and all accounts are right. -/
structure Audited (e : Engine M) (past : List (Step M)) (h : Host M) : Prop where
  engine : h.engine = e
  begun : ∀ step ∈ past, ∀ id, step.Calls id → id.number < h.made
  accounts : ∀ i ∈ h.instances, ∃ s, Account e past s i

/-- Every action preserves the invariant. -/
theorem Audited.perform (ha : Audited e past h) (hs : Sound past h) (hrefuels : M.Refuels)
    (hgauges : M.Gauges) {a : Action M} (hallowed : Allowed past h a) :
    Audited e (⟨h, a⟩ :: past) (h.perform a) where
  engine := (engine_perform h a).trans ha.engine
  begun := by
    have hgrows := grows_perform h a
    intro step hstep id hcalls
    rcases List.mem_cons.1 hstep with rfl | hpast
    · obtain ⟨elapsed, c, args, rfl, rfl⟩ := hcalls
      obtain ⟨i, t, hi, -⟩ := hs.called hallowed
      obtain ⟨hmem, hid⟩ := mem_of_find? hi
      rw [← hid]
      exact Nat.lt_of_lt_of_le (hs.wellFormed.bounded i hmem) hgrows.made
    · exact Nat.lt_of_lt_of_le (ha.begun step hpast id hcalls) hgrows.made
  accounts := by
    intro j hj
    have hbehind := (hs.wellFormed_perform hallowed).find?_of_mem hj
    cases hs.origin_perform hallowed hj with
    | kept _ i hi cache hother =>
        obtain ⟨s, haccount⟩ := ha.accounts i hi
        exact ⟨s, haccount.idle (fun h => hother h.calls) (fun h => hother h.calls)
          (Step.entries_of_not_calls hother) cache⟩
    | made m s store behind linked hstore hlinked hmade =>
        refine ⟨s, account_newInstance ha.engine ?_ ⟨_, List.mem_cons_self, .mk h m s _ hmade⟩⟩
        -- No function of the new instance can have been called.
        intro step hstep hcalls
        rcases List.mem_cons.1 hstep with rfl | hpast
        · obtain ⟨elapsed, c, args, haction, -⟩ := hcalls
          cases haction
        · exact Nat.lt_irrefl _ (ha.begun step hpast _ hcalls)
    | called elapsed c args i hi t hcalled =>
        obtain ⟨hmem, hid⟩ := mem_of_find? hi
        obtain ⟨s, haccount⟩ := ha.accounts i hmem
        rw [hcalled.continues.1.id] at hbehind
        exact ⟨s, haccount.called hid.symm (hs.wellFormed.wellMade i hmem) hrefuels hgauges hcalled
          hbehind⟩

/-- The invariant holds of every run. -/
theorem Run.audited (hrun : Run e past h) (hrefuels : M.Refuels) (hgauges : M.Gauges) :
    Audited e past h := by
  induction hrun with
  | start => exact ⟨rfl, by simp, by simp [ofEngine]⟩
  | step hrun a hallowed ih => exact ih.perform hrun.sound hrefuels hgauges hallowed

/-- What the counters of an instance say which was made with a fuel limit.

* `calls`: how many calls were admitted, which is how often its machine was entered.
* `traps`: how many calls came back with a trap.  These were admitted.
* `fuel`: what was missing of the limit behind the admitted calls, in all, as far as a word can hold
  it.
* `charged`: no call is charged more than the limit.  It is charged what the fuel which is left
  lacks of the limit if fuel is metered, and nothing otherwise.
* `duration`: there is a last duration unless there was no call.
* `unaffected`: an action which is no admitted call leaves the counters as they are. -/
structure Accounted (e : Engine M) (past : List (Step M)) (h : Host M) (maxFuel : UInt64)
    (i : Instance M) : Prop where
  calls : i.metrics.calls.toNat = past.countP (Step.Admitted i.id ·) ∧
    i.metrics.calls.toNat = (past.flatMap (Step.entries i.id)).length
  traps : i.metrics.traps.toNat = past.countP (Step.Trapped i.id ·) ∧
    i.metrics.traps ≤ i.metrics.calls
  fuel : i.metrics.fuelConsumed.toNat = min (UInt64.size - 1) (spent maxFuel i.id past)
  charged : ∀ step ∈ past, step.Admitted i.id → step.used maxFuel i.id ≤ maxFuel.toNat ∧
    (e.metersFuel = false → step.used maxFuel i.id = 0) ∧
    (e.metersFuel = true → ∃ j left, (step.host.perform step.action).find? i.id = some j ∧
      M.fuel j.store = .ok left ∧ step.used maxFuel i.id = maxFuel.toNat - left.toNat)
  duration : i.metrics.lastDuration = none ↔ i.metrics.calls = 0
  unaffected : ∀ a, Allowed past h a → ¬ Step.Admitted i.id ⟨h, a⟩ →
    ∀ j ∈ (h.perform a).instances, j.id = i.id → j.metrics = i.metrics

theorem Step.used_le (maxFuel : UInt64) (id : InstanceId) (step : Step M) :
    step.used maxFuel id ≤ maxFuel.toNat := by
  unfold used
  split
  · exact Instance.used_le maxFuel _
  · exact Nat.zero_le _

/-- What an admitted call is charged. -/
theorem Account.charged (ha : Account e past s i) (hstep : step ∈ past)
    (hadmitted : step.Admitted i.id) :
    (e.metersFuel = false → step.used maxFuel i.id = 0) ∧
      (e.metersFuel = true → ∃ j left, (step.host.perform step.action).find? i.id = some j ∧
        M.fuel j.store = .ok left ∧ step.used maxFuel i.id = maxFuel.toNat - left.toNat) := by
  obtain ⟨j, hj, hmeters, hgauged⟩ := ha.metered step hstep hadmitted
  have hused : step.used maxFuel i.id = j.used maxFuel := by
    unfold Step.used
    rw [hj]
  rw [hused, Instance.used]
  cases hbudget : j.budget with
  | none =>
      rw [hbudget] at hmeters
      refine ⟨fun _ => rfl, ?_⟩
      intro hon
      rw [hon] at hmeters
      cases hmeters
  | some n =>
      rw [hbudget] at hmeters
      constructor
      · intro hoff
        rw [hoff] at hmeters
        cases hmeters
      · intro hon
        obtain ⟨left, hleft⟩ := hgauged hon
        refine ⟨j, left, hj, Instance.fuelLeft_eq_some_iff.1 hleft, ?_⟩
        simp only [hleft]

/-- An action which is no admitted call does not touch the counters. -/
theorem Sound.metrics_perform (hs : Sound past h) {a : Action M} (hallowed : Allowed past h a)
    (hi : i ∈ h.instances) (hadmitted : ¬ Step.Admitted i.id ⟨h, a⟩)
    (hrefuels : M.Refuels) (hgauges : M.Gauges) (hj : j ∈ (h.perform a).instances)
    (hid : j.id = i.id) : j.metrics = i.metrics := by
  cases hs.origin_perform hallowed hj with
  | kept _ k hk cache hother =>
      obtain rfl := hs.wellFormed.eq_of_id hk hi hid
      rfl
  | made m s store behind linked hstore hlinked hmade =>
      -- The identity of a new instance is not taken.
      have hlt := hs.wellFormed.bounded i hi
      rw [← hid] at hlt
      exact absurd hlt (Nat.lt_irrefl _)
  | called elapsed c args k hk t hcalled =>
      obtain ⟨hmem, howner⟩ := mem_of_find? hk
      rw [hcalled.continues.1.id] at hid
      obtain rfl := hs.wellFormed.eq_of_id hmem hi hid
      have hwell := hs.wellFormed.wellMade _ hmem
      rcases hcalled.charge_cases hwell hrefuels hgauges with ⟨-, -, hmachine, -⟩ | ⟨hyes, -⟩
      · rw [hmachine]
      · exact absurd ⟨howner.symm, hyes⟩ hadmitted

theorem Account.accounted (ha : Account e past s i) (hs : Sound past h) (hi : i ∈ h.instances)
    (hrefuels : M.Refuels) (hgauges : M.Gauges)
    (hfew : (past.flatMap (Step.entries i.id)).length < UInt64.size) :
    Accounted e past h s.execution.maxFuel i := by
  rw [ha.entered] at hfew
  have htraps : past.countP (Step.Trapped i.id ·) ≤ past.countP (Step.Admitted i.id ·) := by
    apply List.countP_mono_left
    intro step hstep htrapped
    simpa using ha.trapped step hstep (by simpa using htrapped)
  have hcalls := ha.tallied.toNat_calls hfew
  have htrapped := ha.tallied.toNat_traps (Nat.lt_of_le_of_lt htraps hfew)
  refine ⟨⟨hcalls, hcalls.trans ha.entered.symm⟩, ⟨htrapped, ?_⟩, ha.tallied.fuel, ?_,
    ha.tallied.lastDuration_eq_none_iff hfew, ?_⟩
  · rw [UInt64.le_iff_toNat_le, hcalls, htrapped]
    exact htraps
  · intro step hstep hadmitted
    exact ⟨step.used_le _ _, ha.charged hstep hadmitted⟩
  · intro a hallowed hadmitted j hj hid
    exact hs.metrics_perform hallowed hi hadmitted hrefuels hgauges hj hid

/-- In every run, the counters of every instance are the account of its admitted calls, if fuel can be
set and told on the machine. -/
theorem Run.metrics_accounted (hrun : Run e past h) (hrefuels : M.Refuels) (hgauges : M.Gauges)
    (hi : i ∈ h.instances) (hfew : (past.flatMap (Step.entries i.id)).length < UInt64.size) :
    ∃ s : Settings, (∃ step ∈ past, step.Instantiates s i.id) ∧
      Accounted e past h s.execution.maxFuel i := by
  obtain ⟨s, haccount⟩ := (hrun.audited hrefuels hgauges).accounts i hi
  exact ⟨s, haccount.made, haccount.accounted hrun.sound hi hrefuels hgauges hfew⟩

/-- The first instance of `relay`, of which one function was called. -/
theorem accounted_relay : ∃ i, (relayState 5).2.find? ⟨0⟩ = some i ∧
    ((relayState 5).1.flatMap (Step.entries i.id)).length < UInt64.size ∧
    ∃ maxFuel, Accounted .interpreting (relayState 5).1 (relayState 5).2 maxFuel i := by
  have hfew : ((relayState 5).1.flatMap (Step.entries ⟨0⟩)).length < UInt64.size :=
    show 1 < UInt64.size by decide
  obtain ⟨s, -, haccounted⟩ := run_relay.metrics_accounted Wasm.Interpreter.refuels
    Wasm.Interpreter.gauges List.mem_cons_self hfew
  exact ⟨_, rfl, hfew, s.execution.maxFuel, haccounted⟩

end WasmCall.Host
