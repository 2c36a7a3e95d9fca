import WasmCall.Proofs.Host.Run

/-!
# Where instances come from

What an action does to a host it does to its instances one by one.  `Origin` lists the three ways in
which an instance gets to live behind an action: it was there before and at most remembers more, it was
made just now, or a function of it was called.  There is no other way (`Sound.origin_perform`).
-/

namespace WasmCall.Host

variable {M : Machine} {h h' : Host M} {i j : Instance M} {past : List (Step M)} {id : InstanceId}

/-- A function of an instance is called. -/
def Step.Calls (id : InstanceId) (step : Step M) : Prop :=
  ∃ elapsed c args, step.action = .call elapsed c args ∧ c.target.owner = id

theorem WellFormed.find?_of_mem (hh : h.WellFormed) (hi : i ∈ h.instances) :
    h.find? i.id = some i := by
  cases hfind : h.find? i.id with
  | none => simpa using List.find?_eq_none.1 hfind i hi
  | some j =>
      obtain ⟨hj, hid⟩ := mem_of_find? hfind
      rw [hh.eq_of_id hj hi hid]

/-- An instance is still there while the host goes on. -/
theorem WellFormed.find?_continues (hh : h.WellFormed) (hc : h.Continues h')
    (hi : h.find? id = some i) : ∃ j, h'.find? id = some j ∧ i.Continues j := by
  obtain ⟨hmem, rfl⟩ := mem_of_find? hi
  -- The identities stay the same.
  have hid : i.id ∈ h'.instances.map Instance.id := by
    rw [hc.ids]
    exact List.mem_map_of_mem hmem
  obtain ⟨j, hj, hji⟩ := List.mem_map.1 hid
  obtain ⟨k, hk, hkj⟩ := hc.origin j hj
  obtain rfl : k = i := hh.eq_of_id hk hmem (by rw [← hkj.id, hji])
  exact ⟨j, hji ▸ (hh.continues hc).find?_of_mem hj, hkj⟩

section Engine

theorem engine_getFunction (h : Host M) (id : InstanceId) (name : String) :
    (h.getFunction id name).state.engine = h.engine := by
  unfold getFunction
  cases h.find? id <;> rfl

theorem engine_listNames (id : InstanceId) (names : List String) (h : Host M) :
    (listNames id names h).state.engine = h.engine := by
  induction names generalizing h with
  | nil => rfl
  | cons name names ih => exact (ih _).trans (engine_getFunction h id name)

theorem engine_list (h : Host M) (id : InstanceId) : (h.list id).state.engine = h.engine := by
  unfold list
  cases h.find? id with
  | none => rfl
  | some i => exact engine_listNames id i.names h

theorem engine_call (h : Host M) (elapsed : Nat) (c : Callable FunctionRef) (args : List Value) :
    (h.call elapsed c args).state.engine = h.engine := by
  unfold call
  cases h.find? c.target.owner <;> rfl

/-- A host always keeps its engine. -/
theorem engine_perform (h : Host M) (a : Action M) : (h.perform a).engine = h.engine := by
  cases a with
  | instantiate m s =>
      rcases instantiate_cases h m s with hsame | ⟨store, behind, linked, -, -, -, hstate⟩
      · rw [perform, hsame]
      · rw [perform, hstate]
  | release kept => rfl
  | wrap payload => rfl
  | lookUp id name => exact engine_getFunction h id name
  | list id => exact engine_list h id
  | call elapsed c args => exact engine_call h elapsed c args

end Engine

section Origin

/-- Where an instance comes from which lives behind an action.

* `kept`: it was there before, no function of it was called, and at most it remembers more.
* `made`: it was made by the action.
* `called`: a function of it was called. -/
inductive Origin (h : Host M) : Action M → Instance M → Prop
  | kept (a : Action M) (i : Instance M) (hi : i ∈ h.instances) (cache : Cache FunctionRef)
      (hother : ¬ Step.Calls i.id ⟨h, a⟩) : Origin h a { i with cache := cache }
  | made (m : CompiledModule M) (s : Settings) (store behind : M.Store) (linked : M.Linked)
      (hstore : h.engine.createStore s.execution = .ok store)
      (hlinked : M.instantiate h.instances.length m.inner store = .ok (linked, behind))
      (hmade : (h.instantiate m s).result = .ok (h.newInstance s linked behind).id) :
      Origin h (.instantiate m s) (h.newInstance s linked behind)
  | called (elapsed : Nat) (c : Callable FunctionRef) (args : List Value) (i : Instance M)
      (hi : h.find? c.target.owner = some i) (s : Instance.Session (Instance M))
      (hcalled : i.Called elapsed h.supply c args (h.call elapsed c args).result s
        (h.entries elapsed c args)) :
      Origin h (.call elapsed c args) s.machine

/-- A lookup changes nothing but what an instance remembers. -/
theorem mem_getFunction {name : String} (hj : j ∈ (h.getFunction id name).state.instances) :
    ∃ i ∈ h.instances, ∃ cache, j = { i with cache := cache } := by
  cases hfind : h.find? id with
  | none =>
      unfold getFunction at hj
      rw [hfind] at hj
      exact ⟨j, hj, j.cache, rfl⟩
  | some i =>
      rw [getFunction_of_find? hfind] at hj
      obtain ⟨k, hk, rfl⟩ := List.mem_map.1 hj
      obtain ⟨cache, hstate⟩ : ∃ cache, (i.getFunction name).state = { i with cache := cache } :=
        Instance.getFunction_state i name
      by_cases hid : k.id = (i.getFunction name).state.id
      · rw [if_pos hid, hstate]
        exact ⟨i, (mem_of_find? hfind).1, cache, rfl⟩
      · rw [if_neg hid]
        exact ⟨k, hk, k.cache, rfl⟩

theorem mem_listNames {names : List String}
    (hj : j ∈ (listNames id names h).state.instances) :
    ∃ i ∈ h.instances, ∃ cache, j = { i with cache := cache } := by
  induction names generalizing h with
  | nil => exact ⟨j, hj, j.cache, rfl⟩
  | cons name names ih =>
      obtain ⟨k, hk, cache, rfl⟩ := ih hj
      obtain ⟨i, hi, cache', rfl⟩ := mem_getFunction hk
      exact ⟨i, hi, cache, rfl⟩

theorem mem_list (hj : j ∈ (h.list id).state.instances) :
    ∃ i ∈ h.instances, ∃ cache, j = { i with cache := cache } := by
  unfold list at hj
  cases hfind : h.find? id with
  | none =>
      rw [hfind] at hj
      exact ⟨j, hj, j.cache, rfl⟩
  | some i =>
      rw [hfind] at hj
      exact mem_listNames hj

/-- Every instance behind an action comes from somewhere. -/
theorem Sound.origin_perform (hs : Sound past h) {a : Action M} (hallowed : Allowed past h a)
    (hj : j ∈ (h.perform a).instances) : Origin h a j := by
  -- Only a call does more than change what is remembered.
  have hidle : ¬ (∃ elapsed c args, a = .call elapsed c args) → (∃ i ∈ h.instances, ∃ cache,
      j = { i with cache := cache }) → Origin h a j := by
    rintro hcall ⟨i, hi, cache, rfl⟩
    refine .kept a i hi cache ?_
    rintro ⟨elapsed, c, args, ha, -⟩
    exact hcall ⟨elapsed, c, args, ha⟩
  cases a with
  | instantiate m s =>
      rcases instantiate_cases h m s with
        hsame | ⟨store, behind, linked, hstore, hlinked, hresult, hstate⟩
      · rw [Host.perform, hsame] at hj
        exact hidle (by simp) ⟨j, hj, j.cache, rfl⟩
      · rw [Host.perform, hstate] at hj
        have hmem : j ∈ h.instances ∨ j = h.newInstance s linked behind := by simpa using hj
        rcases hmem with hold | rfl
        · exact hidle (by simp) ⟨j, hold, j.cache, rfl⟩
        · exact .made m s store behind linked hstore hlinked hresult
  | release kept => exact hidle (by simp) ⟨j, List.mem_of_mem_filter hj, j.cache, rfl⟩
  | wrap payload => exact hidle (by simp) ⟨j, hj, j.cache, rfl⟩
  | lookUp id name => exact hidle (by simp) (mem_getFunction hj)
  | list id => exact hidle (by simp) (mem_list hj)
  | call elapsed c args =>
      obtain ⟨i, s, hi, hoffers, hcalled, hstate⟩ := hs.called hallowed
      have hid := hcalled.continues.1.id
      rw [Host.perform, hstate] at hj
      obtain ⟨k, hk, rfl⟩ := List.mem_map.1 hj
      by_cases hsame : k.id = s.machine.id
      · rw [if_pos hsame]
        exact .called elapsed c args i hi s hcalled
      · rw [if_neg hsame]
        refine .kept _ k hk k.cache ?_
        rintro ⟨elapsed', c', args', ha, howner⟩
        cases ha
        rw [← howner, hoffers.owner, hid] at hsame
        exact hsame rfl

end Origin

end WasmCall.Host
