import WasmCall.Proofs.Host.Run
import WasmCall.Proofs.RoundTrip

/-!
# Results as arguments

What a function returned may be passed to another function of the same instance, at any later time.
It takes this way:

* the values which come back are raised, and decoded into the result (`exists_raised_of_callIn`);
* the values of the result are the arguments of the other call, where they are coerced and lowered
  (`Callable.operands_toValue`, `Boundary.lowerAll_of_raiseAll`);
* the machine is entered with what came out of it (`Instance.entered_of_lowerAll`).

A program has all which this takes: handles in the result are its own from then on.  So nothing
stands in the way of the second call, in any run on a machine where fuel can be set
(`values_survive`).
-/

namespace WasmCall

open Wasm

namespace Instance

variable {M : Machine} {i : Instance M} {c : Callable FunctionRef} {elapsed : Nat}
  {args : List Value} {supply : HandleSupply}

/-- A result is made out of what came back from the machine, raised with the handles of the time. -/
theorem exists_raised_of_callIn {r : CallResult}
    (h : (callIn (recording (entry elapsed) i.id) i.id c args ⟨(i, []), supply⟩).result = .ok r) :
    ∃ values results raised,
      (callIn (recording (entry elapsed) i.id) i.id c args ⟨(i, []), supply⟩).state.machine.2 =
        [⟨i.id, c.target, values, .ok results⟩] ∧
      (Boundary.raiseAll i.id supply results).1 = .ok raised ∧
      raised.map Operand.kind = c.signature.results ∧ r.toList = raised.map Operand.toValue := by
  cases hoperands : c.operands args with
  | error e =>
      rw [callIn_of_operands_error _ hoperands] at h
      cases h
  | ok operands =>
      cases hlowered : Boundary.lowerAll i.id operands with
      | error e =>
          rw [callIn_of_lowerAll_error _ hoperands hlowered] at h
          cases h
      | ok values =>
          cases hrefuel : i.refuel with
          | error e =>
              have hrefuel' := recording_refuel_error (entry elapsed) i.id [] hrefuel
              rw [callIn_of_refuel_error _ hoperands hlowered hrefuel'] at h
              cases h
          | ok full =>
              cases henter : (full.enter elapsed c.target values).result with
              | error e =>
                  obtain ⟨events, hcall⟩ :=
                    recorded_of_enter_error hoperands hlowered hrefuel henter supply
                  rw [hcall] at h
                  cases h
              | ok results =>
                  obtain ⟨events, hcall⟩ :=
                    recorded_of_enter_ok hoperands hlowered hrefuel henter supply
                  rw [hcall] at h ⊢
                  cases hraised : (Boundary.raiseAll i.id supply results).1 with
                  | error e => rw [hraised] at h; cases h
                  | ok raised =>
                      rw [hraised] at h
                      -- The last phase delivers a result only of the kinds which are declared.
                      cases (Callable.decode_eq_iff c raised (.ok r)).1 h with
                      | result hkinds _ hshape hvalues =>
                          exact ⟨values, results, raised, rfl, hraised, hkinds, hvalues⟩

end Instance

namespace Host

variable {M : Machine} {e : Engine M} {h h₀ : Host M} {i : Instance M} {past : List (Step M)}
  {give take : Callable FunctionRef} {elapsed elapsed' : Nat} {args : List Value} {r : CallResult}

/-- Every step of a run was taken in a host which a run led to, and was allowed there. -/
theorem Run.exists_before (hrun : Run e past h) {step : Step M} (hstep : step ∈ past) :
    ∃ earlier, Run e earlier step.host ∧ Allowed earlier step.host step.action ∧
      ∀ other ∈ earlier, other ∈ past := by
  induction hrun with
  | start => simp at hstep
  | @step past h hrun a hallowed ih =>
      rcases List.mem_cons.1 hstep with rfl | hpast
      · exact ⟨past, hrun, hallowed, fun _ hother => List.mem_cons_of_mem _ hother⟩
      · obtain ⟨earlier, hearlier, hthere, hsub⟩ := ih hpast
        exact ⟨earlier, hearlier, hthere, fun _ hother => List.mem_cons_of_mem _ (hsub _ hother)⟩

/-- The result of a call is handed over to another call.

* `entered`: the machine is entered by the second call with the very values which it gave to the
  first one.
* `admitted`: the second call does not blame its arguments.  If it fails on a typed machine, it has
  trapped. -/
structure HandedOver (h₀ : Host M) (elapsed : Nat) (give : Callable FunctionRef)
    (args : List Value) (h : Host M) (elapsed' : Nat) (take : Callable FunctionRef)
    (r : CallResult) : Prop where
  entered : ∃ values results answer,
    h₀.entries elapsed give args = [⟨give.target.owner, give.target, values, .ok results⟩] ∧
    h.entries elapsed' take r.toList = [⟨take.target.owner, take.target, results, answer⟩]
  admitted : ∀ error, (h.call elapsed' take r.toList).result = .error error →
    error.isArgumentError = false ∧ (M.Typed → error.isTrap = true)

/-- What a call gave back is its own to the program. -/
theorem allowed_result (hstep : ⟨h₀, .call elapsed give args⟩ ∈ past)
    (hresult : (h₀.call elapsed give args).result = .ok r)
    (hobtained : ∃ step ∈ past, step.Obtains take)
    (hi : h.find? take.target.owner = some i) :
    Allowed past h (.call elapsed' take r.toList) :=
  .call elapsed' take r.toList hobtained ⟨i, hi⟩
    fun g hg => .inr ⟨_, hstep, .returned h₀ elapsed give args r g hresult hg⟩

/-- What a call gave back is handed over whenever the types of the two functions fit. -/
theorem Run.handedOver (hrun : Run e past h) (hrefuels : M.Refuels)
    (hstep : ⟨h₀, .call elapsed give args⟩ ∈ past)
    (hresult : (h₀.call elapsed give args).result = .ok r)
    (hobtained : ∃ step ∈ past, step.Obtains take)
    (hi : h.find? take.target.owner = some i) (howner : take.target.owner = give.target.owner)
    (hfit : (M.typeOf i.linked give.target.index).results =
      (M.typeOf i.linked take.target.index).params) :
    HandedOver h₀ elapsed give args h elapsed' take r := by
  obtain ⟨earlier, hearlier, hallowed, hsub⟩ := hrun.exists_before hstep
  obtain ⟨i₀, s, hi₀, hoffers₀, -, -⟩ := hearlier.sound.called hallowed
  have hoffers := hrun.sound.offers hobtained hi
  -- The first function was obtained before it was called, so the instance still offers it.
  have hgive : i.Offers give := by
    cases hallowed with
    | call _ _ _ hobtained₀ halive hhandles =>
        obtain ⟨step, hmem, hobtains⟩ := hobtained₀
        exact hrun.sound.offers ⟨step, hsub step hmem, hobtains⟩ (howner ▸ hi)
  have hkindsfit : give.signature.results = take.signature.params := by
    rw [hgive.exported.results, hoffers.exported.params] at hfit
    exact (List.map_inj_right fun _ _ => Boundary.typeOf_inj).1 hfit
  -- Both calls are made in the same instance, at two times.
  have hid₀ : i₀.id = give.target.owner := hoffers₀.owner.symm
  have hid : i.id = give.target.owner := by rw [← hoffers.owner, howner]
  rw [result_of_find? hi₀] at hresult
  obtain ⟨values, results, raised, hgiven, hraised, hkinds, hvalues⟩ :=
    Instance.exists_raised_of_callIn hresult
  have hoperands : take.operands r.toList = .ok raised := by
    rw [hvalues]
    exact Callable.operands_toValue (hkinds.trans hkindsfit)
  have hlowered : Boundary.lowerAll i.id raised = .ok results := by
    rw [hid, ← hid₀]
    exact Boundary.lowerAll_of_raiseAll hraised
  have hwell := hrun.sound.wellFormed.wellMade i (mem_of_find? hi).1
  obtain ⟨full, hrefuel⟩ := hwell.exists_refuel hrefuels
  have htaken := (entries_of_find? hi elapsed' r.toList).trans
    (Instance.entered_of_lowerAll hoperands hlowered hrefuel h.supply)
  rw [← entries_of_find? hi₀, hid₀] at hgiven
  constructor
  · rw [hid, ← howner] at htaken
    exact ⟨values, results, _, hgiven, htaken⟩
  · intro error herror
    obtain ⟨t, hcalled, -⟩ := called_call hi elapsed' r.toList
    rw [herror, htaken] at hcalled
    rcases hcalled.error_cases with ⟨-, hnone, -⟩ | ⟨-, -, hnone, -⟩ | ⟨hblame, -, -⟩
    · cases hnone
    · cases hnone
    · refine ⟨hblame, ?_⟩
      intro htyped
      rcases hcalled.error_cases_of_typed hwell hoffers.exported hrefuels htyped with
        ⟨-, hnone, -⟩ | ⟨-, -, htrap⟩
      · cases hnone
      · exact htrap

/-- Values survive the way through the host.

* A value whose type has a kind leaves the machine as an operand of this kind.  The operand is a
  value of the host which goes back under any policy and at any place, and it gives exactly the
  value.
* In every run on a machine where fuel can be set, what a call of one function gave back may be
  passed to another function of the same instance which takes the types that the first one gives.
  The machine then runs the second one on exactly the values which it gave back. -/
theorem values_survive :
    (∀ (v : Val) (k : Kind), Boundary.kindOf v.type = some k →
      ∀ (owner : InstanceId) (supply : HandleSupply), ∃ r,
        (Boundary.raise owner supply v).1 = .ok r ∧ r.kind = k ∧
          ∀ (policy : OverflowPolicy) (index : Nat), coerce policy index k r.toValue = .ok r ∧
            Boundary.lower owner index r = .ok v) ∧
    ∀ M : Machine, M.Refuels → ∀ (e : Engine M) (past : List (Step M)) (h : Host M), Run e past h →
      ∀ (h₀ : Host M) (elapsed : Nat) (give : Callable FunctionRef) (args : List Value)
        (r : CallResult), ⟨h₀, .call elapsed give args⟩ ∈ past →
        (h₀.call elapsed give args).result = .ok r →
      ∀ take : Callable FunctionRef, (∃ step ∈ past, step.Obtains take) →
        take.target.owner = give.target.owner →
      ∀ i : Instance M, h.find? take.target.owner = some i →
        (M.typeOf i.linked give.target.index).results =
          (M.typeOf i.linked take.target.index).params →
        ∀ elapsed' : Nat, Allowed past h (.call elapsed' take r.toList) ∧
          HandedOver h₀ elapsed give args h elapsed' take r := by
  constructor
  · intro v k hkind owner supply
    obtain ⟨r, behind, hraise, -⟩ :=
      Boundary.raised_raise owner supply ((Boundary.kindOf_eq_some_iff v.type k).1 hkind)
    have hraised : (Boundary.raise owner supply v).1 = .ok r := by rw [hraise]
    have hsame : r.kind = k := by
      rw [Boundary.kind_of_raise hraised, Boundary.kindOf_eq_some_iff] at hkind
      exact Boundary.typeOf_inj hkind
    refine ⟨r, hraised, hsame, ?_⟩
    intro policy index
    exact ⟨hsame ▸ coerce_toValue policy index r, Boundary.lower_of_raise hraised index⟩
  · intro M hrefuels e past h hrun h₀ elapsed give args r hstep hresult take hobtained howner i hi
      hfit elapsed'
    exact ⟨allowed_result hstep hresult hobtained hi,
      hrun.handedOver hrefuels hstep hresult hobtained hi howner hfit⟩

section Relay

/-- The function `take` of the first instance of `relay`. -/
def relayKeep : Callable FunctionRef := ⟨"take", ⟨[.ref], []⟩, .reject, ⟨⟨0⟩, 1, 0⟩⟩

/-- The run of `relay`, in which this function is looked up as well. -/
def keepState : List (Step interpreter) × Host interpreter :=
  follow (relayState 5) (.lookUp ⟨0⟩ "take")

/-- The first instance gets back the reference which it gave away. -/
theorem survive_keep : HandedOver (relayState 4).2 7 relayGive [] keepState.2 9 relayKeep
    (.single (.ref (.held 0 (.function ⟨0⟩ 0)))) := by
  have hrun : Run .interpreting keepState.1 keepState.2 :=
    run_relay.step (.lookUp ⟨0⟩ "take") (.lookUp ⟨0⟩ "take")
  have hobtained : ∃ step ∈ keepState.1, step.Obtains relayKeep :=
    ⟨_, List.mem_cons_self, .mk _ ⟨0⟩ "take" relayKeep rfl⟩
  have hstep : ⟨(relayState 4).2, .call 7 relayGive []⟩ ∈ keepState.1 :=
    List.mem_cons_of_mem _ List.mem_cons_self
  exact (values_survive.2 interpreter Interpreter.refuels .interpreting keepState.1 keepState.2 hrun
    (relayState 4).2 7 relayGive [] _ hstep rfl relayKeep hobtained rfl _ rfl rfl 9).2

end Relay

end Host

end WasmCall
