import WasmCall.Proofs.Host.Run

/-!
# Confinement of references

A handle may go anywhere: a program keeps it, copies it, and passes it to functions of any instance.
The machine of an instance nevertheless sees only references which it gave away itself, because a
handle names the instance which it came from and no other handle does.

* `Foreign`: a handle through which an instance never returned a function.
* `Sound.belongs_iff`: the check which is made for a handle finds out exactly whether it is foreign.
* `Confined`: what a call may do with references, and `Run.call_confined`: every call of every run
  is confined in this sense, whatever the machine does.
-/

namespace WasmCall.Host

variable {M : Machine} {h : Host M} {past : List (Step M)} {c : Callable FunctionRef} {elapsed : Nat}
  {args : List Value}

/-- A handle is foreign to an instance if it is not null and none of the steps so far returned a
function of the instance through it. -/
def Foreign (past : List (Step M)) (owner : InstanceId) (g : Handle) : Prop :=
  g ≠ .null ∧ ∀ step ∈ past, ∀ f, ¬ step.Returns owner f g

/-- The first of some arguments which is foreign to an instance. -/
structure FirstForeign (past : List (Step M)) (owner : InstanceId) (args : List Value) (j : Nat) :
    Prop where
  foreign : ∃ g, args[j]? = some (Value.ref g) ∧ Foreign past owner g
  least : ∀ k < j, ∀ g, args[k]? = some (Value.ref g) → ¬ Foreign past owner g

/-- What a call may do with references.

* `passed`: a function which enters the machine of an instance was returned by this instance before,
  through the handle which is passed.
* `rejected`: accepted arguments with a foreign handle among them are rejected for the first such
  handle, without an effect.
* `admitted`: arguments without a foreign handle are never rejected for their references, and enter the
  machine if fuel can be set.
* `fresh`: a handle which comes back is none of those which there were before. -/
structure Confined (past : List (Step M)) (h : Host M) (elapsed : Nat) (c : Callable FunctionRef)
    (args : List Value) : Prop where
  passed : ∀ entered ∈ h.entries elapsed c args, ∀ k f : Nat,
    entered.args[k]? = some (Wasm.Val.func (some f)) → ∃ g, args[k]? = some (Value.ref g) ∧
      ∃ step ∈ past, step.Returns entered.machine f g
  rejected : (∃ operands, c.Accepts args operands) →
    (∃ g, Value.ref g ∈ args ∧ Foreign past c.target.owner g) →
    ∃ j, FirstForeign past c.target.owner args j ∧
      (h.call elapsed c args).result = .error (.typeMismatch j .ref "foreign reference") ∧
      h.entries elapsed c args = [] ∧ (h.call elapsed c args).state = h
  admitted : (∀ g, Value.ref g ∈ args → ¬ Foreign past c.target.owner g) →
    (∀ j k, (h.call elapsed c args).result ≠ .error (.typeMismatch j k "foreign reference")) ∧
      (M.Refuels → (∃ operands, c.Accepts args operands) →
        (h.entries elapsed c args).length = 1)
  fresh : ∀ r, (h.call elapsed c args).result = .ok r →
    ∀ (k : Nat) (g : Handle), r.toList[k]? = some (Value.ref g) → g ≠ .null →
      (∀ step ∈ past, ∀ g', step.Makes g' → g.same g' = false) ∧
        ∀ j < k, ∀ g', r.toList[j]? = some (Value.ref g') → g.same g' = false

namespace Sound

/-- A handle which a program has belongs to an instance exactly if it is not foreign to it. -/
theorem belongs_iff (hs : Sound past h) {owner : InstanceId} {g : Handle}
    (hg : g = .null ∨ ∃ step ∈ past, step.Makes g) :
    Boundary.Belongs owner g ↔ ¬ Foreign past owner g := by
  constructor
  -- Left to right: a handle with this payload cannot have been made in any other way.
  · rintro (rfl | ⟨number, f, rfl⟩) ⟨hheld, hnever⟩
    · exact hheld rfl
    · rcases hg with hnull | ⟨step, hstep, hmakes⟩
      · cases hnull
      · exact hnever step hstep f (hs.owned step hstep number owner f hmakes)
  · intro hforeign
    by_cases hnull : g = .null
    · exact .inl hnull
    · have hreturned : ∃ step ∈ past, ∃ f, step.Returns owner f g := by
        by_contra hnever
        exact hforeign ⟨hnull, fun step hstep f hf => hnever ⟨step, hstep, f, hf⟩⟩
      obtain ⟨step, hstep, f, hf⟩ := hreturned
      obtain ⟨number, hg⟩ := hs.tagged step hstep owner f g hf
      exact .inr ⟨number, f, hg⟩

/-- A function which enters a machine was returned through its handle. -/
theorem passed (hs : Sound past h) (hallowed : Allowed past h (.call elapsed c args))
    {entered : Instance.Entered} (hentered : entered ∈ h.entries elapsed c args) {k f : Nat}
    (hk : entered.args[k]? = some (.func (some f))) :
    ∃ g, args[k]? = some (.ref g) ∧
      ∃ step ∈ past, step.Returns entered.machine f g := by
  obtain ⟨i, s, -, hoffers, hcalled, -⟩ := hs.called hallowed
  obtain ⟨hmachine, -, operands, haccepted, hlowered⟩ := hcalled.lowered hentered
  obtain ⟨number, hoperand⟩ := Boundary.eq_held_of_lowerAll hlowered hk
  have harg := (haccepted.getElem?_eq_ref_iff k _).1 hoperand
  refine ⟨_, harg, ?_⟩
  rcases hallowed.handles (List.mem_of_getElem? harg) with hnull | ⟨step, hstep, hmakes⟩
  · cases hnull
  · rw [hmachine]
    exact ⟨step, hstep, hs.owned step hstep number i.id f hmakes⟩

/-- A handle among the arguments of a call belongs to the instance exactly if it is not foreign. -/
theorem belongs_of_arg (hs : Sound past h) (hallowed : Allowed past h (.call elapsed c args))
    {i : Instance M} (howner : c.target.owner = i.id) {g : Handle} (hg : Value.ref g ∈ args) :
    Boundary.Belongs i.id g ↔ ¬ Foreign past c.target.owner g := by
  rw [howner]
  exact hs.belongs_iff (hallowed.handles hg)

/-- The first foreign handle among accepted arguments decides. -/
theorem rejected (hs : Sound past h) (hallowed : Allowed past h (.call elapsed c args))
    {operands : List Operand} (haccepted : c.Accepts args operands) {g : Handle}
    (hg : Value.ref g ∈ args) (hforeign : Foreign past c.target.owner g) :
    ∃ j, FirstForeign past c.target.owner args j ∧
      (h.call elapsed c args).result = .error (.typeMismatch j .ref "foreign reference") ∧
      h.entries elapsed c args = [] ∧ (h.call elapsed c args).state = h := by
  obtain ⟨i, s, hi, hoffers, hcalled, hstate⟩ := hs.called hallowed
  have hbelongs : ∀ (j : Nat) (g' : Handle), args[j]? = some (.ref g') →
      (Boundary.Belongs i.id g' ↔ ¬ Foreign past c.target.owner g') := fun j g' hg' =>
    hs.belongs_of_arg hallowed hoffers.owner (List.mem_of_getElem? hg')
  cases hlowered : Boundary.lowerAll i.id operands with
  | ok values =>
      -- If the operands were lowered, then no handle among them would be foreign.
      obtain ⟨k, hk⟩ := List.getElem?_of_mem hg
      have hoperand := (haccepted.getElem?_eq_ref_iff k g).2 hk
      exact absurd hforeign
        ((hbelongs k g hk).1 (Boundary.belongs_of_lowerAll hlowered hoperand))
  | error e =>
      obtain ⟨j, g', hg', hother, rfl, hleast⟩ := Boundary.lowerAll_eq_error_iff.1 hlowered
      have harg := (haccepted.getElem?_eq_ref_iff j g').1 hg'
      have hfirst : FirstForeign past c.target.owner args j := by
        refine ⟨⟨g', harg, ?_⟩, ?_⟩
        · by_contra hown
          exact hother ((hbelongs j g' harg).2 hown)
        · intro k hk g'' hg''
          have hoperand := (haccepted.getElem?_eq_ref_iff k g'').2 hg''
          exact (hbelongs k g'' hg'').1 (hleast k hk g'' hoperand)
      have hresult : (h.call elapsed c args).result = .error (Boundary.foreign j) := by
        have hoperands := (Callable.operands_eq_ok_iff c args operands).2 haccepted
        rw [result_of_find? hi, Instance.callIn_of_lowerAll_error _ hoperands hlowered]
      rw [hresult] at hcalled
      -- An error which blames the arguments has had no effect.
      rcases hcalled.error_cases with ⟨-, hentries, rfl⟩ | ⟨hno, -⟩ | ⟨hno, -⟩
      · exact ⟨j, hfirst, hresult, hentries,
          hstate.trans (hs.wellFormed.put_self (mem_of_find? hi).1)⟩
      · cases hno
      · cases hno

/-- Arguments without a foreign handle are not rejected for their references, and enter the machine
if they are accepted. -/
theorem admitted (hs : Sound past h) (hallowed : Allowed past h (.call elapsed c args))
    (hown : ∀ g, Value.ref g ∈ args → ¬ Foreign past c.target.owner g) :
    (∀ j k, (h.call elapsed c args).result ≠ .error (.typeMismatch j k "foreign reference")) ∧
      (M.Refuels → (∃ operands, c.Accepts args operands) →
        (h.entries elapsed c args).length = 1) := by
  obtain ⟨i, s, hi, hoffers, hcalled, -⟩ := hs.called hallowed
  have hbelongs : ∀ operands, c.Accepts args operands → ∀ (j : Nat) (g : Handle),
      operands[j]? = some (.ref g) → Boundary.Belongs i.id g := by
    intro operands haccepted j g hg
    have harg := List.mem_of_getElem? ((haccepted.getElem?_eq_ref_iff j g).1 hg)
    exact (hs.belongs_of_arg hallowed hoffers.owner harg).2 (hown g harg)
  constructor
  · intro j k he
    rw [he] at hcalled
    obtain ⟨operands, g, haccepted, hg, hforeign⟩ := hcalled.exists_foreign
    exact hforeign (hbelongs operands haccepted j g hg)
  · rintro hrefuels ⟨operands, haccepted⟩
    have hoperands := (Callable.operands_eq_ok_iff c args operands).2 haccepted
    obtain ⟨values, hlowered⟩ := Boundary.exists_lowerAll_iff.2 (hbelongs operands haccepted)
    obtain ⟨full, hrefuel⟩ :=
      (hs.wellFormed.wellMade i (mem_of_find? hi).1).exists_refuel hrefuels
    rw [entries_of_find? hi, Instance.entered_of_lowerAll hoperands hlowered hrefuel]
    rfl

/-- A handle which comes back is new. -/
theorem fresh (hs : Sound past h) (hallowed : Allowed past h (.call elapsed c args)) {r : CallResult}
    (hr : (h.call elapsed c args).result = .ok r) {k : Nat} {g : Handle}
    (hk : r.toList[k]? = some (.ref g)) (hg : g ≠ .null) :
    (∀ step ∈ past, ∀ g', step.Makes g' → g.same g' = false) ∧
      ∀ j < k, ∀ g', r.toList[j]? = some (.ref g') → g.same g' = false := by
  obtain ⟨values, results, raised, -, hraised, hvalues⟩ := hs.call_eq_ok hallowed hr
  rw [hvalues] at hk ⊢
  rw [getElem?_map_toValue_eq_ref] at hk
  cases g with
  | null => exact absurd rfl hg
  | held number payload =>
      -- Handles of earlier steps are below the supply, and those of one call are kept apart.
      obtain ⟨f, -, -, hfrom, -⟩ := hraised.handles k number payload hk
      constructor
      · intro step hstep g' hg'
        cases g' with
        | null => rfl
        | held number' payload' =>
            have hold := hs.numbered step hstep number' payload' hg'
            have hne : number ≠ number' := by omega
            simpa [Handle.same] using hne
      · intro j hj g' hg'
        rw [getElem?_map_toValue_eq_ref] at hg'
        cases g' with
        | null => rfl
        | held number' payload' =>
            have hne : number ≠ number' := by
              rintro rfl
              have hjk := hraised.distinct j k number payload' payload hg' hk
              omega
            simpa [Handle.same] using hne

end Sound

/-- Every call of every run is confined. -/
theorem Run.call_confined {e : Engine M} (hrun : Run e past h)
    (hallowed : Allowed past h (.call elapsed c args)) : Confined past h elapsed c args where
  passed := by
    intro entered hentered k f hk
    exact hrun.sound.passed hallowed hentered hk
  rejected := by
    rintro ⟨operands, haccepted⟩ ⟨g, hg, hforeign⟩
    exact hrun.sound.rejected hallowed haccepted hg hforeign
  admitted := hrun.sound.admitted hallowed
  fresh := by
    intro r hr k g hk hg
    exact hrun.sound.fresh hallowed hr hk hg

/-- The reference which the first instance of `relay` gave away, passed to the second one. -/
theorem confined_relay :
    Allowed (relayState 5).1 (relayState 5).2
        (.call 3 relayTake [.ref (.held 0 (.function ⟨0⟩ 0))]) ∧
      Confined (relayState 5).1 (relayState 5).2 3 relayTake
        [.ref (.held 0 (.function ⟨0⟩ 0))] := by
  have hmakes : ∃ step ∈ (relayState 5).1, step.Makes (.held 0 (.function ⟨0⟩ 0)) :=
    ⟨_, List.mem_cons_self, .returned _ 7 relayGive [] (.single (.ref (.held 0 (.function ⟨0⟩ 0)))) _
      rfl List.mem_cons_self⟩
  have hallowed : Allowed (relayState 5).1 (relayState 5).2
      (.call 3 relayTake [.ref (.held 0 (.function ⟨0⟩ 0))]) := by
    refine .call 3 relayTake _ obtains_relayTake ⟨_, rfl⟩ ?_
    intro g hg
    obtain rfl : g = .held 0 (.function ⟨0⟩ 0) := by simpa using hg
    exact .inr hmakes
  exact ⟨hallowed, run_relay.call_confined hallowed⟩

end WasmCall.Host
