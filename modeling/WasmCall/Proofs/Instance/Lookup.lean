import WasmCall.Instance
import WasmCall.Proofs.Boundary
import WasmCall.Proofs.Exports.Cache

/-!
# Lookups in an instance

A callable which a lookup gives is one which the instance `Offers`: its signature is that of the
exported function, and its target is this function of this instance.  This depends only on what
never changes about an instance, so it is the same before and after anything that happens to it:

* `Continues`: one instance is another one at a later time,
* `WellMade`: its module runs in its store, and it remembers nothing but what it offers.

A lookup which fails changes nothing at all (`getFunction_eq_error`).
-/

namespace WasmCall

namespace Instance

variable {M : Machine} {i j k : Instance M} {name : String}

/-- Either a name is resolved, to the function which is exported under it and the kinds of the types
of this function, or it is not resolved for one of two reasons. -/
theorem resolved_cases (i : Instance M) (name : String) :
    (∃ (index : Nat) (signature : Signature), M.func? i.linked name = some index ∧
        (M.typeOf i.linked index).params = signature.params.map Boundary.typeOf ∧
        (M.typeOf i.linked index).results = signature.results.map Boundary.typeOf ∧
        i.resolved name = .ok ⟨signature, ⟨i.id, index, signature.results.length⟩⟩) ∨
      i.resolved name = .error (.notFound name) ∨
      ∃ reason, i.resolved name = .error (.unsupportedSignature name reason) := by
  unfold resolved
  cases hfind : M.func? i.linked name with
  | none => exact .inr (.inl rfl)
  | some index =>
      rcases Boundary.signatureOf_cases name (M.typeOf i.linked index) with
        ⟨signature, hsignature, hparams, hresults⟩ | ⟨reason, hsignature⟩
      · simp only [hsignature]
        exact .inl ⟨index, signature, rfl, hparams, hresults, rfl⟩
      · simp only [hsignature]
        exact .inr (.inr ⟨reason, rfl⟩)

/-- A callable is offered if it is built out of the answer for its name. -/
def Offers (i : Instance M) (c : Callable FunctionRef) : Prop :=
  ∃ r, i.resolved c.name = .ok r ∧ c = Exports.build i.policy c.name r

theorem offers_build {r : Resolved FunctionRef} (h : i.resolved name = .ok r) :
    i.Offers (Exports.build i.policy name r) :=
  ⟨r, h, rfl⟩

/-- What is offered depends on nothing that changes. -/
theorem Offers.congr {c : Callable FunctionRef} (h : i.Offers c) (hid : j.id = i.id)
    (hlinked : j.linked = i.linked) (hpolicy : j.policy = i.policy) : j.Offers c := by
  obtain ⟨r, hresolved, hc⟩ := h
  refine ⟨r, ?_, by rw [hpolicy]; exact hc⟩
  rw [← hresolved]
  unfold resolved
  rw [hid, hlinked]

/-- A function which is offered: it is exported under its name, and its types are those of the kinds
in the signature. -/
structure Exported (i : Instance M) (c : Callable FunctionRef) : Prop where
  owner : c.target.owner = i.id
  found : M.func? i.linked c.name = some c.target.index
  room : c.target.slots = c.signature.results.length
  params : (M.typeOf i.linked c.target.index).params = c.signature.params.map Boundary.typeOf
  results : (M.typeOf i.linked c.target.index).results = c.signature.results.map Boundary.typeOf

theorem Offers.exported {c : Callable FunctionRef} (h : i.Offers c) : i.Exported c := by
  obtain ⟨r, hresolved, hc⟩ := h
  have hsignature : c.signature = r.signature := by rw [hc, Exports.build]
  have htarget : c.target = r.target := by rw [hc, Exports.build]
  rcases resolved_cases i c.name with
    ⟨index, signature, hfind, hparams, hresults, hok⟩ | herror | ⟨reason, herror⟩
  · rw [hresolved] at hok
    cases hok
    constructor <;> simp only [hsignature, htarget]
    · exact hfind
    · exact hparams
    · exact hresults
  · rw [hresolved] at herror
    cases herror
  · rw [hresolved] at herror
    cases herror

theorem Offers.owner {c : Callable FunctionRef} (h : i.Offers c) : c.target.owner = i.id :=
  h.exported.owner

/-- An instance and what became of it: only its store and its metrics change, and it remembers more of
what it offers.  Its module still runs in its store. -/
structure Continues (i j : Instance M) : Prop where
  id : j.id = i.id
  linked : j.linked = i.linked
  budget : j.budget = i.budget
  policy : j.policy = i.policy
  running : ∀ metered, M.Running metered i.linked i.store → M.Running metered i.linked j.store
  cached : ∀ name c, j.cache.find? name = some c →
    i.cache.find? name = some c ∨ c.name = name ∧ i.Offers c

theorem Continues.refl (i : Instance M) : i.Continues i :=
  ⟨rfl, rfl, rfl, rfl, fun _ h => h, fun _ _ h => .inl h⟩

theorem Continues.trans (h : i.Continues j) (h' : j.Continues k) : i.Continues k where
  id := h'.id.trans h.id
  linked := h'.linked.trans h.linked
  budget := h'.budget.trans h.budget
  policy := h'.policy.trans h.policy
  running := by
    intro metered hi
    have hj := h.running metered hi
    rw [← h.linked] at hj ⊢
    exact h'.running metered hj
  cached := by
    intro name c hc
    rcases h'.cached name c hc with hj | ⟨hname, hoffers⟩
    · exact h.cached name c hj
    · exact .inr ⟨hname, hoffers.congr h.id.symm h.linked.symm h.policy.symm⟩

/-- An instance offers the same at any time. -/
theorem Continues.offers {c : Callable FunctionRef} (h : i.Continues j) (hc : i.Offers c) :
    j.Offers c :=
  hc.congr h.id h.linked h.policy

/-- What holds of an instance from the time when it is made.  Fuel is metered in its store if it has a
budget. -/
structure WellMade (i : Instance M) : Prop where
  running : M.Running i.budget.isSome i.linked i.store
  cached : ∀ name c, i.cache.find? name = some c → c.name = name ∧ i.Offers c

theorem WellMade.continues (h : i.WellMade) (hij : i.Continues j) : j.WellMade where
  running := by
    rw [hij.budget, hij.linked]
    exact hij.running _ h.running
  cached := by
    intro name c hc
    rcases hij.cached name c hc with hi | ⟨hname, hoffers⟩
    · obtain ⟨hname, hoffers⟩ := h.cached name c hi
      exact ⟨hname, hij.offers hoffers⟩
    · exact ⟨hname, hij.offers hoffers⟩

/-- What is remembered is given back at once. -/
theorem getFunction_of_cached {c : Callable FunctionRef} (h : i.cache.find? name = some c) :
    i.getFunction name = .pure (.ok c) i := by
  unfold getFunction
  rw [Exports.getFunction_of_cached h]
  rfl

/-- What is not remembered is resolved, and remembered from then on unless that fails. -/
theorem getFunction_of_not_cached (h : i.cache.find? name = none) :
    (i.getFunction name).result = (i.resolved name).map (Exports.build i.policy name) ∧
      (i.getFunction name).state = match i.resolved name with
        | .ok r => { i with
            cache := (i.cache.insertIfAbsent name (Exports.build i.policy name r)).2 }
        | .error _ => i := by
  unfold getFunction
  cases hresolved : i.resolved name with
  | error e =>
      have hanswer : (resolve name i).result = .error e := hresolved
      rw [Exports.getFunction_of_error h hanswer]
      exact ⟨rfl, rfl⟩
  | ok r =>
      have hanswer : (resolve name i).result = .ok r := hresolved
      rw [Exports.getFunction_of_ok h hanswer]
      exact ⟨rfl, rfl⟩

/-- A lookup which fails leaves the whole instance as it is. -/
theorem getFunction_eq_error {e : CallError} (h : (i.getFunction name).result = .error e) :
    (i.getFunction name).state = i ∧
      (e = .notFound name ∨ ∃ reason, e = .unsupportedSignature name reason) := by
  cases hcached : i.cache.find? name with
  | some c => rw [getFunction_of_cached hcached] at h; cases h
  | none =>
      obtain ⟨hresult, hstate⟩ := getFunction_of_not_cached hcached
      rw [hresult] at h
      rcases resolved_cases i name with
        ⟨index, signature, -, -, -, hresolved⟩ | hresolved | ⟨reason, hresolved⟩
      · rw [hresolved] at h
        cases h
      · rw [hresolved] at h hstate
        cases h
        exact ⟨hstate, .inl rfl⟩
      · rw [hresolved] at h hstate
        cases h
        exact ⟨hstate, .inr ⟨reason, rfl⟩⟩

/-- A lookup which succeeds gives something which is offered under the name. -/
theorem WellMade.getFunction_eq_ok (hi : i.WellMade) {c : Callable FunctionRef}
    (h : (i.getFunction name).result = .ok c) : c.name = name ∧ i.Offers c := by
  cases hcached : i.cache.find? name with
  | some d =>
      rw [getFunction_of_cached hcached] at h
      cases h
      exact hi.cached name c hcached
  | none =>
      rw [(getFunction_of_not_cached hcached).1] at h
      cases hresolved : i.resolved name with
      | error e => rw [hresolved] at h; cases h
      | ok r =>
          rw [hresolved] at h
          cases h
          exact ⟨rfl, offers_build hresolved⟩

/-- A lookup changes nothing but what is remembered. -/
theorem getFunction_state (i : Instance M) (name : String) :
    ∃ cache, (i.getFunction name).state = { i with cache := cache } := by
  cases hcached : i.cache.find? name with
  | some c =>
      rw [getFunction_of_cached hcached]
      exact ⟨i.cache, rfl⟩
  | none =>
      rw [(getFunction_of_not_cached hcached).2]
      cases i.resolved name with
      | error e => exact ⟨i.cache, rfl⟩
      | ok r => exact ⟨_, rfl⟩

theorem continues_getFunction (i : Instance M) (name : String) :
    i.Continues (i.getFunction name).state := by
  cases hcached : i.cache.find? name with
  | some c =>
      rw [getFunction_of_cached hcached]
      exact .refl i
  | none =>
      rw [(getFunction_of_not_cached hcached).2]
      cases hresolved : i.resolved name with
      | error e => exact .refl i
      | ok r =>
          refine ⟨rfl, rfl, rfl, rfl, fun _ h => h, ?_⟩
          intro other c hc
          rcases Cache.find?_of_insertIfAbsent hc with hold | ⟨rfl, rfl⟩
          · exact .inl hold
          · exact .inr ⟨rfl, offers_build hresolved⟩

end Instance

end WasmCall
