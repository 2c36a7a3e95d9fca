import Mathlib.Data.List.Nodup
import WasmCall.Exports

/-!
# What a cache remembers

A cache is used through lookups and insertions only.

* An insertion adds a name which is not there, and does nothing for a name which is
  (`find?_insertIfAbsent`).  So what is remembered stays remembered.
* What an insertion gives back is what is remembered afterwards (`find?_insertIfAbsent_self`).
* No name is there twice if all names got there by insertions (`Distinct`).  Then the entries are
  exactly what lookups find.

A lookup with a resolver goes in one of three ways: `getFunction_of_cached`, `getFunction_of_error`
and `getFunction_of_ok`.
-/

namespace WasmCall

namespace Cache

variable {ι : Type} {cache : Cache ι} {name other : String} {c d : Callable ι}

/-- Behind an insertion, names are found which were found before, and the name which was given. -/
theorem find?_insertIfAbsent (cache : Cache ι) (name other : String) (c : Callable ι) :
    (cache.insertIfAbsent name c).2.find? other =
      (cache.find? other).or (if other = name then some c else none) := by
  unfold insertIfAbsent
  cases hpresent : cache.find? name with
  | some present =>
      by_cases hname : other = name
      · simp [hname, hpresent]
      · simp [hname]
  | none =>
      simp only [find?, List.lookup_append]
      by_cases hname : other = name
      · simp [hname]
      · have hne : (other == name) = false := by simpa using hname
        simp [List.lookup_cons, hne, hname]

/-- What an insertion gives back is remembered from then on. -/
theorem find?_insertIfAbsent_self (cache : Cache ι) (name : String) (c : Callable ι) :
    (cache.insertIfAbsent name c).2.find? name = some (cache.insertIfAbsent name c).1 := by
  rw [find?_insertIfAbsent, if_pos rfl]
  unfold insertIfAbsent
  cases cache.find? name <;> rfl

/-- What is remembered is not lost by an insertion. -/
theorem find?_insertIfAbsent_of_some (h : cache.find? other = some d) :
    (cache.insertIfAbsent name c).2.find? other = some d := by
  rw [find?_insertIfAbsent, h, Option.some_or]

/-- What is remembered behind an insertion was remembered before or has just been given. -/
theorem find?_of_insertIfAbsent (h : (cache.insertIfAbsent name c).2.find? other = some d) :
    cache.find? other = some d ∨ other = name ∧ d = c := by
  rw [find?_insertIfAbsent, Option.or_eq_some_iff] at h
  rcases h with hold | ⟨-, hnew⟩
  · exact .inl hold
  · by_cases hname : other = name
    · rw [if_pos hname] at hnew
      exact .inr ⟨hname, (Option.some.inj hnew).symm⟩
    · rw [if_neg hname] at hnew
      cases hnew

/-- An insertion takes nothing away. -/
theorem entries_insertIfAbsent (cache : Cache ι) (name : String) (c : Callable ι) :
    cache.entries <+: (cache.insertIfAbsent name c).2.entries := by
  unfold insertIfAbsent
  cases cache.find? name with
  | some present => exact List.prefix_refl _
  | none => exact List.prefix_append _ _

/-- The names which are remembered, in the order in which they were inserted. -/
def names (cache : Cache ι) : List String :=
  cache.entries.map Prod.fst

/-- No name is there twice. -/
def Distinct (cache : Cache ι) : Prop :=
  cache.names.Nodup

theorem distinct_empty : (empty : Cache ι).Distinct :=
  List.nodup_nil

theorem length_names (cache : Cache ι) : cache.names.length = cache.size := by
  simp [names, size]

/-- The names which are remembered are those which are found. -/
theorem mem_names_iff : name ∈ cache.names ↔ ∃ c, cache.find? name = some c := by
  constructor
  · intro hname
    by_contra hnone
    have hlookup : cache.entries.lookup name = none := by
      cases hfind : cache.find? name with
      | none => exact hfind
      | some c => exact absurd ⟨c, hfind⟩ hnone
    obtain ⟨entry, hentry, rfl⟩ := List.mem_map.1 hname
    simpa using List.lookup_eq_none_iff.1 hlookup entry hentry
  · rintro ⟨c, hc⟩
    obtain ⟨l, r, hentries, -⟩ := List.lookup_eq_some_iff.1 hc
    rw [names, hentries]
    simp

theorem Distinct.insertIfAbsent (h : cache.Distinct) (name : String) (c : Callable ι) :
    (cache.insertIfAbsent name c).2.Distinct := by
  unfold Cache.insertIfAbsent
  cases hpresent : cache.find? name with
  | some present => exact h
  | none =>
      have hnew : name ∉ cache.names := by
        rw [mem_names_iff, hpresent]
        simp
      simpa [Distinct, names] using h.append (List.nodup_singleton name) (by simpa using hnew)

end Cache

namespace Exports

variable {ι ρ : Type} {resolve : Resolver ρ ι} {policy : OverflowPolicy} {name : String}
  {state : ρ} {cache : Cache ι}

/-- What is remembered is given back, and the resolver is not asked. -/
theorem getFunction_of_cached {c : Callable ι} (h : cache.find? name = some c) :
    getFunction resolve policy name state cache = .pure (.ok c) (state, cache) := by
  unfold getFunction
  rw [h]

/-- A failure of the resolver is passed on, and nothing is remembered of it. -/
theorem getFunction_of_error {e : CallError} (h : cache.find? name = none)
    (hresolve : (resolve name state).result = .error e) :
    getFunction resolve policy name state cache =
      ⟨.error e, ((resolve name state).state, cache), (resolve name state).events⟩ := by
  simp only [getFunction, h, hresolve]

/-- An answer of the resolver becomes a callable, which is remembered from then on. -/
theorem getFunction_of_ok {r : Resolved ι} (h : cache.find? name = none)
    (hresolve : (resolve name state).result = .ok r) :
    getFunction resolve policy name state cache =
      ⟨.ok (build policy name r),
        ((resolve name state).state, (cache.insertIfAbsent name (build policy name r)).2),
        (resolve name state).events ++ [builtEvent name r]⟩ := by
  have hbuilt : (cache.insertIfAbsent name (build policy name r)).1 = build policy name r := by
    rw [Cache.insertIfAbsent, h]
  simp only [getFunction, h, hresolve, hbuilt]

/-- A lookup remembers what it gives, and forgets nothing. -/
theorem find?_getFunction (resolve : Resolver ρ ι) (policy : OverflowPolicy) (name : String)
    (state : ρ) (cache : Cache ι) (other : String) (c : Callable ι) :
    (getFunction resolve policy name state cache).state.2.find? other = some c ↔
      cache.find? other = some c ∨ cache.find? other = none ∧ other = name ∧
        (getFunction resolve policy name state cache).result = .ok c := by
  cases hfound : cache.find? name with
  | some d =>
      rw [getFunction_of_cached hfound]
      refine ⟨.inl, ?_⟩
      rintro (hc | ⟨hnone, rfl, -⟩)
      · exact hc
      · rw [hfound] at hnone
        cases hnone
  | none =>
      cases hresolve : (resolve name state).result with
      | error e =>
          rw [getFunction_of_error hfound hresolve]
          simp
      | ok r =>
          rw [getFunction_of_ok hfound hresolve]
          simp only [Cache.find?_insertIfAbsent, Option.or_eq_some_iff, Except.ok.injEq]
          by_cases hname : other = name
          · simp [hname, hfound]
          · simp [hname]

theorem distinct_getFunction (resolve : Resolver ρ ι) (policy : OverflowPolicy) (name : String)
    (state : ρ) (h : cache.Distinct) :
    (getFunction resolve policy name state cache).state.2.Distinct := by
  cases hfound : cache.find? name with
  | some d =>
      rw [getFunction_of_cached hfound]
      exact h
  | none =>
      cases hresolve : (resolve name state).result with
      | error e =>
          rw [getFunction_of_error hfound hresolve]
          exact h
      | ok r =>
          rw [getFunction_of_ok hfound hresolve]
          exact h.insertIfAbsent name _

end Exports

end WasmCall
