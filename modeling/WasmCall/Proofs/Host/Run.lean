import WasmCall.Proofs.Host.Instances
import WasmCall.Proofs.Wasm.Interpreter

/-!
# Runs of a host

A program uses a host by actions, one after another and in any order: it makes instances and lets
them go, looks up functions, and calls them with handles.  It has only what it was given:

* a callable is one which a lookup gave to it, and it keeps its instance alive,
* a handle is null, or the program made it around a value of its own, or an earlier call returned
  it.

A `Run` is what happened so far, with the host which it led to.  Each `Step` of it keeps the host in
which it was done, so that what came of it can still be told:

* `Step.Obtains`: the program got a callable,
* `Step.Makes`: a handle came into the world,
* `Step.Returns`: an instance gave away one of its functions through a handle.

`Sound` is the invariant of all runs (`Run.sound`).  It says that a handle which stands for a
function was returned by the very instance which it names.

A small run of the interpreter is at the end: one instance of the module `relay` gives a reference
away, which another one could take.
-/

namespace WasmCall.Host

/-- What a program can do with a host.

* `instantiate`, `release`: make an instance, and keep only some of them.
* `wrap`: make a handle around a value.
* `lookUp`, `list`: look up one function, or all of them.
* `call`: call a function, which takes some time. -/
inductive Action (M : Machine) where
  | instantiate (m : CompiledModule M) (s : Settings)
  | release (kept : List InstanceId)
  | wrap (payload : Payload)
  | lookUp (id : InstanceId) (name : String)
  | list (id : InstanceId)
  | call (elapsed : Nat) (c : Callable FunctionRef) (args : List Value)

variable {M : Machine}

/-- The host behind an action. -/
def perform (h : Host M) : Action M → Host M
  | .instantiate m s => (h.instantiate m s).state
  | .release kept => h.retain kept
  | .wrap payload => { h with supply := (h.supply.issue payload).2 }
  | .lookUp id name => (h.getFunction id name).state
  | .list id => (h.list id).state
  | .call elapsed c args => (h.call elapsed c args).state

/-- An action, and the host in which it was done. -/
structure Step (M : Machine) where
  host : Host M
  action : Action M

namespace Step

/-- A lookup gave a callable to the program. -/
inductive Obtains : Step M → Callable FunctionRef → Prop
  | mk (h : Host M) (id : InstanceId) (name : String) (c : Callable FunctionRef)
      (hfound : (h.getFunction id name).result = .ok c) : Obtains ⟨h, .lookUp id name⟩ c

/-- A handle was made by the program, or came back from a call. -/
inductive Makes : Step M → Handle → Prop
  | wrapped (h : Host M) (payload : Payload) :
      Makes ⟨h, .wrap payload⟩ (h.supply.issue payload).1
  | returned (h : Host M) (elapsed : Nat) (c : Callable FunctionRef) (args : List Value)
      (r : CallResult) (g : Handle) (hresult : (h.call elapsed c args).result = .ok r)
      (hg : Value.ref g ∈ r.toList) : Makes ⟨h, .call elapsed c args⟩ g

/-- The machine of an instance returned a function, and the call gave back a handle in its place. -/
inductive Returns : Step M → InstanceId → Nat → Handle → Prop
  | mk (h : Host M) (elapsed : Nat) (c : Callable FunctionRef) (args : List Value)
      (entered : Instance.Entered) (hentered : entered ∈ h.entries elapsed c args)
      (values : List Wasm.Val) (hvalues : entered.result = .ok values) (r : CallResult)
      (hresult : (h.call elapsed c args).result = .ok r) (k f : Nat) (g : Handle)
      (hf : values[k]? = some (.func (some f))) (hg : r.toList[k]? = some (.ref g)) :
      Returns ⟨h, .call elapsed c args⟩ entered.machine f g

end Step

/-- The actions which a program can take behind some steps, the latest of them first. -/
inductive Allowed (past : List (Step M)) (h : Host M) : Action M → Prop
  | instantiate (m : CompiledModule M) (s : Settings) : Allowed past h (.instantiate m s)
  | release (kept : List InstanceId) : Allowed past h (.release kept)
  | wrap (payload : Payload) (hown : ∀ owner f, payload ≠ .function owner f) :
      Allowed past h (.wrap payload)
  | lookUp (id : InstanceId) (name : String) : Allowed past h (.lookUp id name)
  | list (id : InstanceId) : Allowed past h (.list id)
  | call (elapsed : Nat) (c : Callable FunctionRef) (args : List Value)
      (hobtained : ∃ step ∈ past, step.Obtains c) (halive : ∃ i, h.find? c.target.owner = some i)
      (hhandles : ∀ g, Value.ref g ∈ args → g = .null ∨ ∃ step ∈ past, step.Makes g) :
      Allowed past h (.call elapsed c args)

theorem Allowed.handles {past : List (Step M)} {h : Host M} {elapsed : Nat}
    {c : Callable FunctionRef} {args : List Value}
    (hallowed : Allowed past h (.call elapsed c args)) {g : Handle} (hg : Value.ref g ∈ args) :
    g = .null ∨ ∃ step ∈ past, step.Makes g := by
  cases hallowed with
  | call _ _ _ hobtained halive hhandles => exact hhandles g hg

/-- The steps which a program has taken, the latest of them first, and the host behind them. -/
inductive Run (e : Engine M) : List (Step M) → Host M → Prop
  | start : Run e [] (ofEngine e)
  | step {past : List (Step M)} {h : Host M} (hrun : Run e past h) (a : Action M)
      (hallowed : Allowed past h a) : Run e (⟨h, a⟩ :: past) (h.perform a)

variable {h h' : Host M} {i : Instance M} {past : List (Step M)} {c : Callable FunctionRef}
  {elapsed : Nat} {args : List Value}

/-- A host and what became of it: an instance which was there before continues, and any other one
has a new identity. -/
structure Grows (h h' : Host M) : Prop where
  made : h.made ≤ h'.made
  supply : h.supply.next ≤ h'.supply.next
  origin : ∀ j ∈ h'.instances, (∃ i ∈ h.instances, i.Continues j) ∨ h.made ≤ j.id.number

theorem Continues.grows (hh : h.Continues h') : h.Grows h' :=
  ⟨Nat.le_of_eq hh.made.symm, hh.supply, fun j hj => .inl (hh.origin j hj)⟩

/-- The invariant of a run.

* `offered`: a callable which was obtained belongs to an instance which was made, and this instance
  offers it as long as it lives.
* `numbered`: the numbers of all handles are taken.
* `owned`: a handle which stands for a function was returned by the instance of this function.
* `tagged`: a handle through which a function was returned stands for it. -/
structure Sound (past : List (Step M)) (h : Host M) : Prop where
  wellFormed : h.WellFormed
  offered : ∀ step ∈ past, ∀ c, step.Obtains c →
    c.target.owner.number < h.made ∧ ∀ i ∈ h.instances, i.id = c.target.owner → i.Offers c
  numbered : ∀ step ∈ past, ∀ number payload, step.Makes (.held number payload) →
    number < h.supply.next
  owned : ∀ step ∈ past, ∀ number owner f, step.Makes (.held number (.function owner f)) →
    step.Returns owner f (.held number (.function owner f))
  tagged : ∀ step ∈ past, ∀ owner f g, step.Returns owner f g →
    ∃ number, g = .held number (.function owner f)

theorem sound_start (e : Engine M) : Sound [] (ofEngine e) :=
  ⟨wellFormed_ofEngine e, by simp, by simp, by simp, by simp⟩

namespace Sound

/-- A callable which was obtained is one which its instance offers, if that is alive. -/
theorem offers (hs : Sound past h) (hobtained : ∃ step ∈ past, step.Obtains c)
    (hi : h.find? c.target.owner = some i) : i.Offers c := by
  obtain ⟨step, hstep, hc⟩ := hobtained
  obtain ⟨hmem, hid⟩ := mem_of_find? hi
  exact (hs.offered step hstep c hc).2 i hmem hid

/-- A call comes to what it may come to in the instance of its callable. -/
theorem called (hs : Sound past h) (hallowed : Allowed past h (.call elapsed c args)) :
    ∃ (i : Instance M) (s : Instance.Session (Instance M)),
      h.find? c.target.owner = some i ∧ i.Offers c ∧
        i.Called elapsed h.supply c args (h.call elapsed c args).result s
          (h.entries elapsed c args) ∧
        (h.call elapsed c args).state = { h.put s.machine with supply := s.supply } := by
  cases hallowed with
  | call _ _ _ hobtained halive hhandles =>
      obtain ⟨i, hi⟩ := halive
      obtain ⟨s, hcalled, hstate⟩ := called_call hi elapsed args
      exact ⟨i, s, hi, hs.offers hobtained hi, hcalled, hstate⟩

/-- What a call which succeeds did: the machine was entered once and came back with values, and
these became the values of the result. -/
theorem call_eq_ok (hs : Sound past h) (hallowed : Allowed past h (.call elapsed c args))
    {r : CallResult} (hr : (h.call elapsed c args).result = .ok r) :
    ∃ values results raised,
      h.entries elapsed c args = [⟨c.target.owner, c.target, values, .ok results⟩] ∧
      Boundary.Raised c.target.owner h.supply results raised
        (h.call elapsed c args).state.supply ∧
      r.toList = raised.map Operand.toValue := by
  obtain ⟨i, s, hi, hoffers, hcalled, hstate⟩ := hs.called hallowed
  rw [hr] at hcalled
  obtain ⟨values, results, raised, hentries, hraised, -, -, hvalues⟩ := hcalled.eq_ok
  rw [hstate, hoffers.owner]
  exact ⟨values, results, raised, hentries, hraised, hvalues⟩

end Sound

/-- A reference among values of the host is one among the operands which they are made from. -/
theorem getElem?_map_toValue_eq_ref (rs : List Operand) (k : Nat) (g : Handle) :
    (rs.map Operand.toValue)[k]? = some (.ref g) ↔ rs[k]? = some (.ref g) := by
  rw [List.getElem?_map]
  cases rs[k]? with
  | none => simp
  | some r => cases r <;> simp [Operand.toValue]

/-- Whatever is done to a host, its instances go on or are let go. -/
theorem grows_perform (h : Host M) (a : Action M) : h.Grows (h.perform a) := by
  cases a with
  | instantiate m s =>
      rcases instantiate_cases h m s with hsame | ⟨store, behind, linked, -, -, -, hstate⟩
      · rw [perform, hsame]
        exact (Continues.refl h).grows
      · rw [perform, hstate]
        refine ⟨Nat.le_succ _, Nat.le_refl _, ?_⟩
        intro j hj
        have hmem : j ∈ h.instances ∨ j = h.newInstance s linked behind := by simpa using hj
        rcases hmem with hold | rfl
        · exact .inl ⟨j, hold, .refl j⟩
        · exact .inr (Nat.le_refl _)
  | release kept =>
      refine ⟨Nat.le_refl _, Nat.le_refl _, ?_⟩
      intro j hj
      exact .inl ⟨j, List.mem_of_mem_filter hj, .refl j⟩
  | wrap payload => exact ⟨Nat.le_refl _, Nat.le_succ _, fun j hj => .inl ⟨j, hj, .refl j⟩⟩
  | lookUp id name => exact (continues_getFunction h id name).grows
  | list id => exact (continues_list h id).grows
  | call elapsed c args => exact (continues_call h elapsed c args).grows

theorem Sound.wellFormed_perform (hs : Sound past h) {a : Action M} (hallowed : Allowed past h a) :
    (h.perform a).WellFormed := by
  have hh := hs.wellFormed
  cases hallowed with
  | instantiate m s => exact hh.instantiate m s
  | release kept => exact hh.retain kept
  | wrap payload hown => exact ⟨hh.distinct, hh.bounded, hh.wellMade⟩
  | lookUp id name => exact hh.continues (continues_getFunction h id name)
  | list id => exact hh.continues (continues_list h id)
  | call elapsed c args hobtained halive hhandles =>
      exact hh.continues (continues_call h elapsed c args)

/-- What a lookup gave before is still offered behind one more action. -/
theorem Sound.offered_perform (hs : Sound past h) (a : Action M)
    {step : Step M} (hstep : step ∈ past) (hc : step.Obtains c) :
    c.target.owner.number < (h.perform a).made ∧
      ∀ i ∈ (h.perform a).instances, i.id = c.target.owner → i.Offers c := by
  have hgrows := grows_perform h a
  obtain ⟨hmade, hoffers⟩ := hs.offered step hstep c hc
  refine ⟨Nat.lt_of_lt_of_le hmade hgrows.made, ?_⟩
  intro j hj hid
  -- An instance which is new has an identity that no callable names yet.
  rcases hgrows.origin j hj with ⟨i, hi, hij⟩ | hnew
  · exact hij.offers (hoffers i hi (hij.id.symm.trans hid))
  · rw [hid] at hnew
    omega

/-- What a lookup has just given is offered. -/
theorem Sound.offered_lookUp (hs : Sound past h) {id : InstanceId} {name : String}
    (hc : (h.getFunction id name).result = .ok c) :
    c.target.owner.number < (h.perform (.lookUp id name)).made ∧
      ∀ i ∈ (h.perform (.lookUp id name)).instances, i.id = c.target.owner → i.Offers c := by
  have hcontinues := continues_getFunction h id name
  obtain ⟨i, hi, hoffers⟩ := hs.wellFormed.getFunction_eq_ok hc
  obtain ⟨hmem, -⟩ := mem_of_find? hi
  constructor
  · rw [perform, hcontinues.made, hoffers.owner]
    exact hs.wellFormed.bounded i hmem
  -- An instance of this identity behind the lookup continues the one in which it was done.
  · intro k hk hid
    obtain ⟨j, hj, hjk⟩ := hcontinues.origin k hk
    have hij : j = i := by
      apply hs.wellFormed.eq_of_id hj hmem
      rw [← hjk.id, hid, hoffers.owner]
    rw [hij] at hjk
    exact hjk.offers hoffers

/-- The handles of an action are new, and those which stand for functions were returned by the
machine which the action entered. -/
theorem Sound.makes_perform (hs : Sound past h) {a : Action M} (hallowed : Allowed past h a)
    {number : Nat} {payload : Payload} (hmakes : Step.Makes ⟨h, a⟩ (.held number payload)) :
    h.supply.next ≤ number ∧ number < (h.perform a).supply.next ∧
      ∀ owner f, payload = .function owner f →
        Step.Returns ⟨h, a⟩ owner f (.held number payload) := by
  cases hmakes with
  | wrapped _ payload =>
      cases hallowed with
      | wrap _ hown => exact ⟨Nat.le_refl _, Nat.lt_succ_self _, fun o f hf => absurd hf (hown o f)⟩
  | returned _ elapsed c args r _ hresult hg =>
      obtain ⟨values, results, raised, hentries, hraised, hvalues⟩ := hs.call_eq_ok hallowed hresult
      -- The handle stands at some place of the result, and its function at this place of values.
      rw [hvalues] at hg
      obtain ⟨k, hk⟩ := List.getElem?_of_mem hg
      rw [getElem?_map_toValue_eq_ref] at hk
      obtain ⟨f, hpayload, hf, hfrom, hto⟩ := hraised.handles k number payload hk
      refine ⟨hfrom, hto, ?_⟩
      intro owner f' hf'
      rw [hpayload] at hf'
      cases hf'
      have hplace : r.toList[k]? = some (.ref (.held number payload)) := by
        rw [hvalues, getElem?_map_toValue_eq_ref, hk]
      exact .mk h elapsed c args ⟨c.target.owner, c.target, values, .ok results⟩ (by simp [hentries])
        results rfl r hresult k f _ hf hplace

/-- A handle through which a function is returned stands for it. -/
theorem Sound.returns_perform (hs : Sound past h) {a : Action M} (hallowed : Allowed past h a)
    {owner : InstanceId} {f : Nat} {g : Handle} (hreturns : Step.Returns ⟨h, a⟩ owner f g) :
    ∃ number, g = .held number (.function owner f) := by
  cases hreturns with
  | mk _ elapsed c args entered hentered results hresults r hresult k f _ hf hg =>
      obtain ⟨values, results', raised, hentries, hraised, hvalues⟩ :=
        hs.call_eq_ok hallowed hresult
      -- A call enters a machine once, so this is the entry which the handles were made for.
      have hentry : entered = ⟨c.target.owner, c.target, values, .ok results'⟩ := by
        simpa [hentries] using hentered
      rw [hentry] at hresults ⊢
      cases hresults
      obtain ⟨number, hr⟩ := hraised.functions k f hf
      rw [hvalues, getElem?_map_toValue_eq_ref, hr] at hg
      cases hg
      exact ⟨number, rfl⟩

/-- Every action preserves the invariant. -/
theorem Sound.perform (hs : Sound past h) {a : Action M} (hallowed : Allowed past h a) :
    Sound (⟨h, a⟩ :: past) (h.perform a) where
  wellFormed := hs.wellFormed_perform hallowed
  -- In each of the others, the new step is settled by itself, and the steps before it keep what
  -- they had.
  offered := by
    intro step hstep c hc
    rcases List.mem_cons.1 hstep with rfl | hpast
    · cases hc with
      | mk _ id name _ hfound => exact hs.offered_lookUp hfound
    · exact hs.offered_perform a hpast hc
  numbered := by
    intro step hstep number payload hmakes
    rcases List.mem_cons.1 hstep with rfl | hpast
    · exact (hs.makes_perform hallowed hmakes).2.1
    · have hold := hs.numbered step hpast number payload hmakes
      exact Nat.lt_of_lt_of_le hold (grows_perform h a).supply
  owned := by
    intro step hstep number owner f hmakes
    rcases List.mem_cons.1 hstep with rfl | hpast
    · exact (hs.makes_perform hallowed hmakes).2.2 owner f rfl
    · exact hs.owned step hpast number owner f hmakes
  tagged := by
    intro step hstep owner f g hreturns
    rcases List.mem_cons.1 hstep with rfl | hpast
    · exact hs.returns_perform hallowed hreturns
    · exact hs.tagged step hpast owner f g hreturns

/-- The invariant holds of every run. -/
theorem Run.sound {e : Engine M} (hrun : Run e past h) : Sound past h := by
  induction hrun with
  | start => exact sound_start e
  | step _ a hallowed ih => exact ih.perform hallowed

section Relay

/-- A module with a function which gives a reference to itself, and one which takes a reference. -/
def relay : CompiledModule Wasm.interpreter :=
  { inner := { Wasm.Module.empty with
      functions := [⟨⟨[], [.funcref]⟩, [], [.refFunc 0]⟩, ⟨⟨[.funcref], []⟩, [], []⟩]
      exports := [⟨"give", .func, 0⟩, ⟨"take", .func, 1⟩] }
    digest := "" }

/-- The function `give` of the first instance of the module. -/
def relayGive : Callable FunctionRef := ⟨"give", ⟨[], [.ref]⟩, .reject, ⟨⟨0⟩, 0, 1⟩⟩

/-- The function `take` of the second instance of the module. -/
def relayTake : Callable FunctionRef := ⟨"take", ⟨[.ref], []⟩, .reject, ⟨⟨1⟩, 1, 0⟩⟩

/-- Two instances of the module are made, a function of each of them is looked up, and that of the
first one is called. -/
def relayActions : List (Action Wasm.interpreter) :=
  [.instantiate relay .default, .instantiate relay .default, .lookUp ⟨0⟩ "give", .lookUp ⟨1⟩ "take",
    .call 7 relayGive []]

/-- Take one more action. -/
def follow (state : List (Step M) × Host M) (a : Action M) : List (Step M) × Host M :=
  (⟨state.2, a⟩ :: state.1, state.2.perform a)

/-- The first so many of these actions, as steps, and the host behind them. -/
def relayState (n : Nat) : List (Step Wasm.interpreter) × Host Wasm.interpreter :=
  (relayActions.take n).foldl follow ([], ofEngine .interpreting)

theorem obtains_relayTake : ∃ step ∈ (relayState 5).1, step.Obtains relayTake :=
  ⟨_, List.mem_cons_of_mem _ List.mem_cons_self, .mk _ ⟨1⟩ "take" relayTake rfl⟩

/-- All of these actions are allowed, one behind the other. -/
theorem run_relay : Run .interpreting (relayState 5).1 (relayState 5).2 := by
  have hempty : Run .interpreting (relayState 0).1 (relayState 0).2 := .start
  have hfirst : Run .interpreting (relayState 1).1 (relayState 1).2 :=
    hempty.step (.instantiate relay .default) (.instantiate relay .default)
  have hsecond : Run .interpreting (relayState 2).1 (relayState 2).2 :=
    hfirst.step (.instantiate relay .default) (.instantiate relay .default)
  have hgive : Run .interpreting (relayState 3).1 (relayState 3).2 :=
    hsecond.step (.lookUp ⟨0⟩ "give") (.lookUp ⟨0⟩ "give")
  have htake : Run .interpreting (relayState 4).1 (relayState 4).2 :=
    hgive.step (.lookUp ⟨1⟩ "take") (.lookUp ⟨1⟩ "take")
  have hobtained : ∃ step ∈ (relayState 4).1, step.Obtains relayGive :=
    ⟨_, List.mem_cons_of_mem _ List.mem_cons_self, .mk _ ⟨0⟩ "give" relayGive rfl⟩
  exact htake.step (.call 7 relayGive []) (.call 7 relayGive [] hobtained ⟨_, rfl⟩ (by simp))

end Relay

end WasmCall.Host
