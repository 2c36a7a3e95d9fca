import Mathlib.Data.List.Nodup
import WasmCall.Host
import WasmCall.Proofs.Instance.Entry

/-!
# The instances of a host

No two instances of a host share an identity, so what is done to one of them leaves all others as
they are.

* `WellFormed`: the invariant of the instances.  It holds of a host without instances, and
  whatever is done to a host preserves it.
* `Continues`: the same instances at a later time.  Lookups, listings and calls lead from a host to
  one which continues it.
* `called_call`: a call of a function of an instance which lives comes to what `Instance.Called` says,
  and nothing happens to the host beyond that.
-/

namespace WasmCall.Engine

/-- The store for an instance is fresh, and metered if there is a budget. -/
theorem fresh_createStore {M : Machine} {e : Engine M} {s : ExecutionSettings}
    {store : M.Store} (hstore : e.createStore s = .ok store) : M.Fresh (e.budget s).isSome store := by
  have hmade : M.Fresh e.metersFuel (M.newStore e.inner) := .made e.made
  have hbudget : (e.budget s).isSome = e.metersFuel := by
    unfold budget
    cases e.metersFuel <;> rfl
  rw [hbudget]
  unfold createStore at hstore
  split at hstore
  · cases hstore
    exact hmade
  · rename_i n hn
    cases hset : M.setFuel n (M.newStore e.inner) with
    | error fault => simp [hset, Except.mapError] at hstore
    | ok full =>
        simp only [hset, Except.mapError, Except.ok.injEq] at hstore
        rw [← hstore]
        exact hmade.fuelled hset

end WasmCall.Engine

namespace WasmCall.Host

variable {M : Machine} {h h' h'' : Host M} {i j : Instance M} {id : InstanceId}

/-- The invariant of the instances of a host. -/
structure WellFormed (h : Host M) : Prop where
  distinct : (h.instances.map Instance.id).Nodup
  bounded : ∀ i ∈ h.instances, i.id.number < h.made
  wellMade : ∀ i ∈ h.instances, i.WellMade

theorem mem_of_find? (hi : h.find? id = some i) : i ∈ h.instances ∧ i.id = id := by
  refine ⟨List.mem_of_find?_eq_some hi, ?_⟩
  simpa using List.find?_some hi

namespace WellFormed

theorem eq_of_id (hh : h.WellFormed) (hi : i ∈ h.instances) (hj : j ∈ h.instances)
    (hid : i.id = j.id) : i = j :=
  List.inj_on_of_nodup_map hh.distinct hi hj hid

/-- An instance which has not changed is put back without an effect. -/
theorem put_self (hh : h.WellFormed) (hi : i ∈ h.instances) : h.put i = h := by
  -- The instance with this identity is the same one, and every other one is skipped.
  have hsame : ∀ j ∈ h.instances, (if j.id = i.id then i else j) = id j := by
    intro j hj
    by_cases hid : j.id = i.id
    · simp [hh.eq_of_id hj hi hid]
    · simp [hid]
  unfold put
  rw [List.map_congr_left hsame, List.map_id]

end WellFormed

/-- A host and what became of it while its instances stayed the same ones. -/
structure Continues (h h' : Host M) : Prop where
  made : h'.made = h.made
  supply : h.supply.next ≤ h'.supply.next
  ids : h'.instances.map Instance.id = h.instances.map Instance.id
  origin : ∀ j ∈ h'.instances, ∃ i ∈ h.instances, i.Continues j

theorem Continues.refl (h : Host M) : h.Continues h :=
  ⟨rfl, Nat.le_refl _, rfl, fun i hi => ⟨i, hi, .refl i⟩⟩

theorem Continues.trans (hh : h.Continues h') (hh' : h'.Continues h'') : h.Continues h'' where
  made := hh'.made.trans hh.made
  supply := Nat.le_trans hh.supply hh'.supply
  ids := hh'.ids.trans hh.ids
  origin := by
    intro k hk
    obtain ⟨j, hj, hjk⟩ := hh'.origin k hk
    obtain ⟨i, hi, hij⟩ := hh.origin j hj
    exact ⟨i, hi, hij.trans hjk⟩

theorem WellFormed.continues (hh : h.WellFormed) (hc : h.Continues h') : h'.WellFormed where
  distinct := by
    rw [hc.ids]
    exact hh.distinct
  bounded := by
    intro j hj
    obtain ⟨i, hi, hij⟩ := hc.origin j hj
    rw [hc.made, hij.id]
    exact hh.bounded i hi
  wellMade := by
    intro j hj
    obtain ⟨i, hi, hij⟩ := hc.origin j hj
    exact (hh.wellMade i hi).continues hij

/-- A changed instance takes the place of the one which it was, and all others keep their own. -/
theorem continues_put (hi : i ∈ h.instances) (hij : i.Continues j)
    {supply : HandleSupply} (hsupply : h.supply.next ≤ supply.next) :
    h.Continues { h.put j with supply := supply } where
  made := rfl
  supply := hsupply
  ids := by
    simp only [put, List.map_map]
    apply List.map_congr_left
    intro k hk
    by_cases hid : k.id = j.id
    · simp [hid]
    · simp [hid]
  origin := by
    intro k hk
    obtain ⟨l, hl, hlk⟩ := List.mem_map.1 hk
    by_cases hid : l.id = j.id
    · rw [if_pos hid] at hlk
      exact ⟨i, hi, hlk ▸ hij⟩
    · rw [if_neg hid] at hlk
      exact ⟨l, hl, hlk ▸ .refl l⟩

theorem wellFormed_ofEngine (e : Engine M) : (ofEngine e).WellFormed :=
  ⟨by simp [ofEngine], by simp [ofEngine], by simp [ofEngine]⟩

/-- An instance which was let go leaves the others as they are. -/
theorem WellFormed.retain (hh : h.WellFormed) (ids : List InstanceId) :
    (h.retain ids).WellFormed where
  distinct := hh.distinct.sublist (List.filter_sublist.map Instance.id)
  bounded := fun i hi => hh.bounded i (List.mem_of_mem_filter hi)
  wellMade := fun i hi => hh.wellMade i (List.mem_of_mem_filter hi)

section Instantiate

variable {m : CompiledModule M} {s : Settings} {linked : M.Linked} {store behind : M.Store}

/-- A module which is instantiated gives one more instance; otherwise nothing happens. -/
theorem instantiate_cases (h : Host M) (m : CompiledModule M) (s : Settings) :
    (h.instantiate m s).state = h ∨
      ∃ (store behind : M.Store) (linked : M.Linked),
        h.engine.createStore s.execution = .ok store ∧
        M.instantiate h.instances.length m.inner store = .ok (linked, behind) ∧
        (h.instantiate m s).result = .ok (h.newInstance s linked behind).id ∧
        (h.instantiate m s).state =
          { h with
            instances := h.instances ++ [h.newInstance s linked behind], made := h.made + 1 } := by
  unfold instantiate
  cases hstore : h.engine.createStore s.execution with
  | error e => exact .inl rfl
  | ok store =>
      cases hlinked : M.instantiate h.instances.length m.inner store with
      | error e => exact .inl (by simp only [hlinked]; rfl)
      | ok pair => exact .inr ⟨store, pair.2, pair.1, rfl, hlinked, by simp only [hlinked]; simp⟩

theorem wellMade_newInstance (hstore : h.engine.createStore s.execution = .ok store)
    {live : Nat} (hlinked : M.instantiate live m.inner store = .ok (linked, behind)) :
    (h.newInstance s linked behind).WellMade :=
  ⟨.linked (Engine.fresh_createStore hstore) hlinked, by simp [newInstance]⟩

theorem WellFormed.instantiate (hh : h.WellFormed) (m : CompiledModule M) (s : Settings) :
    (h.instantiate m s).state.WellFormed := by
  rcases instantiate_cases h m s with hsame | ⟨store, behind, linked, hstore, hlinked, -, hstate⟩
  · rw [hsame]
    exact hh
  · rw [hstate]
    have hmem : ∀ j ∈ h.instances ++ [h.newInstance s linked behind],
        j ∈ h.instances ∨ j = h.newInstance s linked behind := by
      intro j hj
      simpa using hj
    refine ⟨?_, ?_, ?_⟩
    · rw [List.map_append, List.nodup_append]
      -- The new identity is above those of all instances so far.
      refine ⟨hh.distinct, by simp, ?_⟩
      intro a ha b hb hab
      obtain ⟨j, hj, rfl⟩ := List.mem_map.1 ha
      have hb' : b = ⟨h.made⟩ := by simpa [newInstance] using hb
      have hlt := hh.bounded j hj
      rw [hab, hb'] at hlt
      exact Nat.lt_irrefl _ hlt
    · intro j hj
      rcases hmem j hj with hold | rfl
      · exact Nat.lt_succ_of_lt (hh.bounded j hold)
      · exact Nat.lt_succ_self _
    · intro j hj
      rcases hmem j hj with hold | rfl
      · exact hh.wellMade j hold
      · exact wellMade_newInstance hstore hlinked

end Instantiate

section Lookup

variable {name : String}

/-- A lookup in an instance which lives. -/
theorem getFunction_of_find? (hi : h.find? id = some i) :
    h.getFunction id name = (i.getFunction name).mapState h.put := by
  unfold getFunction
  rw [hi]

/-- A lookup which fails leaves the host as it is, with all that its instances remember. -/
theorem WellFormed.getFunction_eq_error (hh : h.WellFormed) {e : CallError}
    (he : (h.getFunction id name).result = .error e) :
    (h.getFunction id name).state = h ∧
      (e = .notFound name ∨ ∃ reason, e = .unsupportedSignature name reason) := by
  cases hfind : h.find? id with
  | none =>
      unfold getFunction at he ⊢
      rw [hfind] at he ⊢
      cases he
      exact ⟨rfl, .inl rfl⟩
  | some i =>
      rw [getFunction_of_find? hfind] at he ⊢
      obtain ⟨hstate, hreason⟩ := Instance.getFunction_eq_error he
      refine ⟨?_, hreason⟩
      -- The lookup gave back the instance as it was, and it is put where it came from.
      have hput := hh.put_self (mem_of_find? hfind).1
      rw [← hstate] at hput
      exact hput.trans rfl

/-- A lookup which succeeds gives what the instance offers. -/
theorem WellFormed.getFunction_eq_ok (hh : h.WellFormed) {c : Callable FunctionRef}
    (hc : (h.getFunction id name).result = .ok c) : ∃ i, h.find? id = some i ∧ i.Offers c := by
  cases hfind : h.find? id with
  | none =>
      unfold getFunction at hc
      rw [hfind] at hc
      cases hc
  | some i =>
      rw [getFunction_of_find? hfind] at hc
      have hi := hh.wellMade i (mem_of_find? hfind).1
      exact ⟨i, rfl, (hi.getFunction_eq_ok hc).2⟩

theorem continues_getFunction (h : Host M) (id : InstanceId) (name : String) :
    h.Continues (h.getFunction id name).state := by
  cases hfind : h.find? id with
  | none =>
      unfold getFunction
      rw [hfind]
      exact .refl h
  | some i =>
      rw [getFunction_of_find? hfind]
      exact continues_put (mem_of_find? hfind).1 (Instance.continues_getFunction i name)
        (Nat.le_refl _)

/-- A listing is nothing but lookups. -/
theorem continues_listNames (h : Host M) (id : InstanceId) (names : List String) :
    h.Continues (listNames id names h).state := by
  induction names generalizing h with
  | nil => exact .refl h
  | cons name names ih => exact (continues_getFunction h id name).trans (ih _)

theorem continues_list (h : Host M) (id : InstanceId) : h.Continues (h.list id).state := by
  unfold list
  cases h.find? id with
  | none => exact .refl h
  | some i => exact continues_listNames h id i.names

end Lookup

section Call

variable {c : Callable FunctionRef} {elapsed : Nat} {args : List Value}

/-- Call a function, and write down how the machine of its instance is entered. -/
def callRecording (h : Host M) (elapsed : Nat) (c : Callable FunctionRef) (args : List Value) :
    Reply (Host M × List Instance.Entered) (Except CallError CallResult) :=
  match h.find? c.target.owner with
  | none => .pure (.error (.notFound c.name)) (h, [])
  | some i =>
    let put (s : Instance.Session (Instance M × List Instance.Entered)) :
        Host M × List Instance.Entered :=
      ({ h.put s.machine.1 with supply := s.supply }, s.machine.2)
    (Instance.callIn (Instance.recording (Instance.entry elapsed) i.id) i.id c args
      ⟨(i, []), h.supply⟩).mapState put

/-- How a call enters machines, in order. -/
def entries (h : Host M) (elapsed : Nat) (c : Callable FunctionRef) (args : List Value) :
    List Instance.Entered :=
  (h.callRecording elapsed c args).state.2

/-- A call is the same whether it is written down or not. -/
theorem callRecording_eq_call (h : Host M) (elapsed : Nat) (c : Callable FunctionRef)
    (args : List Value) :
    (h.callRecording elapsed c args).mapState Prod.fst = h.call elapsed c args := by
  unfold callRecording call
  cases hfind : h.find? c.target.owner with
  | none => rfl
  | some i =>
      have hforget :=
        Instance.callIn_recording (Instance.entry elapsed) i.id c args ⟨(i, []), h.supply⟩
      -- The plain session is the recorded one with its empty record forgotten.
      simp only [Instance.call]
      rw [show (⟨i, h.supply⟩ : Instance.Session (Instance M)) =
        (⟨(i, []), h.supply⟩ : Instance.Session (Instance M × List Instance.Entered)).forget from
          rfl, ← hforget]
      rfl

/-- The machine which a call enters, as the instance sees it. -/
theorem entries_of_find? (hi : h.find? c.target.owner = some i)
    (elapsed : Nat) (args : List Value) :
    h.entries elapsed c args = (Instance.callIn (Instance.recording (Instance.entry elapsed) i.id)
      i.id c args ⟨(i, []), h.supply⟩).state.machine.2 := by
  rw [entries, callRecording, hi]
  rfl

theorem result_of_find? (hi : h.find? c.target.owner = some i)
    (elapsed : Nat) (args : List Value) :
    (h.call elapsed c args).result = (Instance.callIn
      (Instance.recording (Instance.entry elapsed) i.id) i.id c args
      ⟨(i, []), h.supply⟩).result := by
  rw [← callRecording_eq_call, callRecording, hi]
  rfl

/-- What a call of a function of an instance which lives comes to, and what becomes of the host. -/
theorem called_call (hi : h.find? c.target.owner = some i) (elapsed : Nat) (args : List Value) :
    ∃ s : Instance.Session (Instance M),
      i.Called elapsed h.supply c args (h.call elapsed c args).result s
          (h.entries elapsed c args) ∧
        (h.call elapsed c args).state = { h.put s.machine with supply := s.supply } := by
  rw [← callRecording_eq_call, entries]
  unfold callRecording
  rw [hi]
  exact ⟨_, Instance.called_callIn i elapsed c h.supply args, rfl⟩

theorem continues_call (h : Host M) (elapsed : Nat) (c : Callable FunctionRef)
    (args : List Value) : h.Continues (h.call elapsed c args).state := by
  cases hfind : h.find? c.target.owner with
  | none =>
      unfold call
      rw [hfind]
      exact .refl h
  | some i =>
      obtain ⟨s, hcalled, hstate⟩ := called_call hfind elapsed args
      obtain ⟨hinstance, hsupply⟩ := hcalled.continues
      rw [hstate]
      exact continues_put (mem_of_find? hfind).1 hinstance hsupply

/-- The error of a call, the machine which was entered, and the host behind it go together on a typed
machine which can be refuelled. -/
theorem WellFormed.call_error_cases (hh : h.WellFormed) (hi : h.find? c.target.owner = some i)
    (hc : i.Offers c) (hrefuels : M.Refuels) (htyped : M.Typed) {e : CallError}
    (he : (h.call elapsed c args).result = .error e) :
    (e.isArgumentError = true ∧ h.entries elapsed c args = [] ∧
        (h.call elapsed c args).state = h) ∨
      (e.isArgumentError = false ∧ (h.entries elapsed c args).length = 1 ∧ e.isTrap = true) := by
  obtain ⟨s, hcalled, hstate⟩ := called_call hi elapsed args
  have hmem := (mem_of_find? hi).1
  rw [he] at hcalled
  rcases hcalled.error_cases_of_typed (hh.wellMade i hmem) hc.exported hrefuels htyped with
    ⟨hblame, hentries, hs⟩ | htrapped
  · refine .inl ⟨hblame, hentries, ?_⟩
    rw [hstate, hs, hh.put_self hmem]
  · exact .inr htrapped

end Call

end WasmCall.Host
