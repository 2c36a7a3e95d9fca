import WasmCall.Proofs.Exports.Cache

/-!
# Racing lookups

Several callers may look up functions on one surface and its copies at the same time.  A lookup
touches what they share three times: it looks the name up in the map, it asks the resolver, and it
inserts what it has built, unless the map holds something for the name by then.  Between these
steps anything may happen.

* `advance` is one of these steps.  Three of them which nothing interrupts are a lookup
  (`advances_wanted`).
* `Race`: callers on a surface, the requests which they have made and how far these have come.
* `Turns`: what one step does to a request and to the map.
* `request_cases`, `cache_cases`: what one move does to the requests and to the map of a race.
-/

namespace WasmCall.Exports

variable {ρ ι : Type}

/-- How far a lookup has come.

* `wanted`: nothing has been done yet.
* `missed`: the map held nothing for the name.
* `resolved`: the resolver has answered.
* `done`: the lookup has given its result. -/
inductive Stage (ι : Type) where
  | wanted
  | missed
  | resolved (answer : Resolved ι)
  | done (result : Except CallError (Callable ι))

/-- The next step of a lookup, on the resolver and the map as they are by now. -/
def advance (resolve : Resolver ρ ι) (policy : OverflowPolicy) (name : String)
    (shared : ρ × Cache ι) : Stage ι → Reply (ρ × Cache ι) (Stage ι)
  | .wanted =>
    match shared.2.find? name with
    | some c => .pure (.done (.ok c)) shared
    | none => .pure .missed shared
  | .missed =>
    let answer := resolve name shared.1
    match answer.result with
    | .error e => ⟨.done (.error e), (answer.state, shared.2), answer.events⟩
    | .ok r => ⟨.resolved r, (answer.state, shared.2), answer.events ++ [builtEvent name r]⟩
  | .resolved r =>
    let (c, cache) := shared.2.insertIfAbsent name (build policy name r)
    .pure (.done (.ok c)) (shared.1, cache)
  | .done result => .pure (.done result) shared

/-- So many steps of a lookup, with nothing in between. -/
def advances (resolve : Resolver ρ ι) (policy : OverflowPolicy) (name : String) :
    Nat → ρ × Cache ι → Stage ι → Reply (ρ × Cache ι) (Stage ι)
  | 0, shared, stage => .pure stage shared
  | n + 1, shared, stage =>
    let next := advance resolve policy name shared stage
    let rest := advances resolve policy name n next.state next.result
    ⟨rest.result, rest.state, next.events ++ rest.events⟩

/-- A lookup consists of three steps. -/
theorem advances_wanted (resolve : Resolver ρ ι) (policy : OverflowPolicy) (name : String)
    (state : ρ) (cache : Cache ι) :
    advances resolve policy name 3 (state, cache) .wanted =
      ⟨.done (getFunction resolve policy name state cache).result,
        (getFunction resolve policy name state cache).state,
        (getFunction resolve policy name state cache).events⟩ := by
  cases hfound : cache.find? name with
  | some c =>
      rw [getFunction_of_cached hfound]
      simp [advances, advance, hfound, Reply.pure]
  | none =>
      cases hresolve : (resolve name state).result with
      | error e =>
          rw [getFunction_of_error hfound hresolve]
          simp [advances, advance, hfound, hresolve, Reply.pure]
      | ok r =>
          rw [getFunction_of_ok hfound hresolve]
          simp [advances, advance, hfound, hresolve, Reply.pure, Cache.insertIfAbsent]

/-- What a step does, given what is shared before: where the lookup stands before and behind it, and
the map behind it. -/
inductive Turns (resolve : Resolver ρ ι) (policy : OverflowPolicy) (name : String)
    (shared : ρ × Cache ι) : Stage ι → Stage ι → Cache ι → Prop
  | found (c : Callable ι) (hfound : shared.2.find? name = some c) :
      Turns resolve policy name shared .wanted (.done (.ok c)) shared.2
  | missed (hmissed : shared.2.find? name = none) :
      Turns resolve policy name shared .wanted .missed shared.2
  | refused (e : CallError) (hanswer : (resolve name shared.1).result = .error e) :
      Turns resolve policy name shared .missed (.done (.error e)) shared.2
  | answered (r : Resolved ι) (hanswer : (resolve name shared.1).result = .ok r) :
      Turns resolve policy name shared .missed (.resolved r) shared.2
  | inserted (r : Resolved ι) :
      Turns resolve policy name shared (.resolved r)
        (.done (.ok (shared.2.insertIfAbsent name (build policy name r)).1))
        (shared.2.insertIfAbsent name (build policy name r)).2
  | ended (result : Except CallError (Callable ι)) :
      Turns resolve policy name shared (.done result) (.done result) shared.2

theorem turns_advance (resolve : Resolver ρ ι) (policy : OverflowPolicy) (name : String)
    (shared : ρ × Cache ι) (stage : Stage ι) :
    Turns resolve policy name shared stage (advance resolve policy name shared stage).result
      (advance resolve policy name shared stage).state.2 := by
  cases stage with
  | wanted =>
      unfold advance
      cases hfound : shared.2.find? name with
      | some c => exact .found c hfound
      | none => exact .missed hfound
  | missed =>
      cases hanswer : (resolve name shared.1).result with
      | error e =>
          simp only [advance, hanswer]
          exact .refused e hanswer
      | ok r =>
          simp only [advance, hanswer]
          exact .answered r hanswer
  | resolved r => exact .inserted r
  | done result => exact .ended result

section Turns

variable {resolve : Resolver ρ ι} {policy : OverflowPolicy} {name : String} {shared : ρ × Cache ι}
  {stage stage' : Stage ι} {cache : Cache ι}

/-- The map behind a step is the one before it, unless the resolver had answered. -/
theorem Turns.cache_cases (h : Turns resolve policy name shared stage stage' cache) :
    cache = shared.2 ∨ ∃ r, stage = .resolved r ∧
      stage' = .done (.ok (shared.2.insertIfAbsent name (build policy name r)).1) ∧
      cache = (shared.2.insertIfAbsent name (build policy name r)).2 := by
  cases h with
  | found c hfound => exact .inl rfl
  | missed hmissed => exact .inl rfl
  | refused e hanswer => exact .inl rfl
  | answered r hanswer => exact .inl rfl
  | inserted r => exact .inr ⟨r, rfl, rfl, rfl⟩
  | ended result => exact .inl rfl

/-- What a step gives is what the map holds behind it. -/
theorem Turns.find?_of_done {c : Callable ι}
    (h : Turns resolve policy name shared stage (.done (.ok c)) cache)
    (hbefore : stage = .done (.ok c) → shared.2.find? name = some c) :
    cache.find? name = some c := by
  cases h with
  | found _ hfound => exact hfound
  | inserted r => exact Cache.find?_insertIfAbsent_self _ _ _
  | ended _ => exact hbefore rfl

/-- A lookup fails only by the answer of the resolver. -/
theorem Turns.error_cases {e : CallError}
    (h : Turns resolve policy name shared stage (.done (.error e)) cache) :
    stage = .done (.error e) ∨ stage = .missed ∧ (resolve name shared.1).result = .error e := by
  cases h with
  | refused _ hanswer => exact .inr ⟨rfl, hanswer⟩
  | ended _ => exact .inl rfl

theorem Turns.resolved_cases {r : Resolved ι}
    (h : Turns resolve policy name shared stage (.resolved r) cache) :
    stage = .missed ∧ (resolve name shared.1).result = .ok r := by
  cases h with
  | answered _ hanswer => exact ⟨rfl, hanswer⟩

/-- A lookup which has given its result goes no further. -/
theorem Turns.of_done {result : Except CallError (Callable ι)}
    (h : Turns resolve policy name shared (.done result) stage' cache) :
    stage' = .done result ∧ cache = shared.2 := by
  cases h with
  | ended _ => exact ⟨rfl, rfl⟩

end Turns

/-- A lookup which a caller has begun. -/
structure Request (ι : Type) where
  caller : Nat
  name : String
  stage : Stage ι

/-- The resolver, the map, and the requests in the order in which they were begun. -/
structure Race (ρ ι : Type) where
  resolver : ρ
  cache : Cache ι
  requests : List (Request ι)

namespace Race

/-- What can happen in a race.

* `request`: a caller begins to look up a name.
* `advance`: a request takes its next step.
* `change`: the resolver changes, in whatever way. -/
inductive Move (ρ : Type) where
  | request (caller : Nat) (name : String)
  | advance (k : Nat)
  | change (f : ρ → ρ)

/-- The race behind a move. -/
def perform (resolve : Resolver ρ ι) (policy : OverflowPolicy) (r : Race ρ ι) : Move ρ → Race ρ ι
  | .request caller name => { r with requests := r.requests ++ [⟨caller, name, .wanted⟩] }
  | .advance k =>
    match r.requests[k]? with
    | none => r
    | some q =>
      let next := Exports.advance resolve policy q.name (r.resolver, r.cache) q.stage
      ⟨next.state.1, next.state.2, r.requests.set k { q with stage := next.result }⟩
  | .change f => { r with resolver := f r.resolver }

/-- A caller makes one request at a time, and a request takes steps until it is done. -/
inductive Allowed (r : Race ρ ι) : Move ρ → Prop
  | request (caller : Nat) (name : String)
      (hidle : ∀ q ∈ r.requests, q.caller = caller → ∃ result, q.stage = .done result) :
      Allowed r (.request caller name)
  | advance (k : Nat) (q : Request ι) (hq : r.requests[k]? = some q)
      (hunderway : ∀ result, q.stage ≠ .done result) : Allowed r (.advance k)
  | change (f : ρ → ρ) : Allowed r (.change f)

/-- A move, and the race in which it was made. -/
structure Step (ρ ι : Type) where
  before : Race ρ ι
  move : Move ρ

/-- The resolver was asked in a step of a request, and gave an answer. -/
inductive Step.Asks (resolve : Resolver ρ ι) :
    Step ρ ι → Nat → String → Except CallError (Resolved ι) → Prop
  | mk (r : Race ρ ι) (k : Nat) (q : Request ι) (hq : r.requests[k]? = some q)
      (hmissed : q.stage = .missed) (answer : Except CallError (Resolved ι))
      (hanswer : (resolve q.name r.resolver).result = answer) :
      Asks resolve ⟨r, .advance k⟩ k q.name answer

/-- The steps which were taken, the latest of them first, and the race behind them. -/
inductive Run (resolve : Resolver ρ ι) (policy : OverflowPolicy) :
    List (Step ρ ι) → Race ρ ι → Prop
  | start (resolver : ρ) : Run resolve policy [] ⟨resolver, .empty, []⟩
  | step {past : List (Step ρ ι)} {r : Race ρ ι} (hrun : Run resolve policy past r) (m : Move ρ)
      (hallowed : Allowed r m) : Run resolve policy (⟨r, m⟩ :: past) (r.perform resolve policy m)

variable {resolve : Resolver ρ ι} {policy : OverflowPolicy} {past : List (Step ρ ι)} {r : Race ρ ι}
  {m : Move ρ} {k : Nat} {q q' : Request ι} {name : String} {c : Callable ι}

section Perform

/-- A step of a request. -/
theorem perform_advance (resolve : Resolver ρ ι) (policy : OverflowPolicy)
    (hq : r.requests[k]? = some q) :
    ∃ stage,
      (r.perform resolve policy (.advance k)).requests =
        r.requests.set k { q with stage := stage } ∧
      Turns resolve policy q.name (r.resolver, r.cache) q.stage stage
        (r.perform resolve policy (.advance k)).cache := by
  simp only [perform, hq]
  exact ⟨_, rfl, turns_advance resolve policy q.name (r.resolver, r.cache) q.stage⟩

/-- A request behind a move is one which was there before and took no step, or has just been made,
or has taken a step. -/
theorem request_cases (hq' : (r.perform resolve policy m).requests[k]? = some q') :
    (m ≠ .advance k ∧ r.requests[k]? = some q') ∨
      (r.requests[k]? = none ∧ q'.stage = .wanted) ∨
      ∃ q, m = .advance k ∧ r.requests[k]? = some q ∧ q'.name = q.name ∧
        Turns resolve policy q.name (r.resolver, r.cache) q.stage q'.stage
          (r.perform resolve policy m).cache := by
  cases m with
  | request caller name =>
      simp only [perform, List.getElem?_append] at hq'
      split at hq'
      · exact .inl ⟨nofun, hq'⟩
      · rename_i hge
        have hlast : q' = ⟨caller, name, .wanted⟩ := by
          simpa using List.mem_of_getElem? hq'
        exact .inr (.inl ⟨List.getElem?_eq_none (Nat.le_of_not_lt hge), by rw [hlast]⟩)
  | change f => exact .inl ⟨nofun, hq'⟩
  | advance j =>
      cases hj : r.requests[j]? with
      | none =>
          simp only [perform, hj] at hq'
          refine .inl ⟨?_, hq'⟩
          rintro ⟨⟩
          rw [hj] at hq'
          cases hq'
      | some q =>
          obtain ⟨stage, hrequests, hturns⟩ := perform_advance resolve policy hj
          have hlt := (List.getElem?_eq_some_iff.1 hj).1
          rw [hrequests, List.getElem?_set] at hq'
          by_cases hjk : j = k
          · subst hjk
            rw [if_pos rfl, if_pos hlt] at hq'
            cases hq'
            exact .inr (.inr ⟨q, rfl, hj, rfl, hturns⟩)
          · rw [if_neg hjk] at hq'
            refine .inl ⟨?_, hq'⟩
            rintro ⟨⟩
            exact hjk rfl

/-- The map behind a move is the one before it, unless a request which the resolver had answered
has taken a step. -/
theorem cache_cases (resolve : Resolver ρ ι) (policy : OverflowPolicy) (r : Race ρ ι) (m : Move ρ) :
    (r.perform resolve policy m).cache = r.cache ∨
      ∃ (k : Nat) (q : Request ι) (answer : Resolved ι), r.requests[k]? = some q ∧
        q.stage = .resolved answer ∧
        (r.perform resolve policy m).cache =
          (r.cache.insertIfAbsent q.name (build policy q.name answer)).2 := by
  cases m with
  | request caller name => exact .inl rfl
  | change f => exact .inl rfl
  | advance k =>
      cases hq : r.requests[k]? with
      | none =>
          refine .inl ?_
          simp only [perform, hq]
      | some q =>
          obtain ⟨stage, -, hturns⟩ := perform_advance resolve policy hq
          rcases hturns.cache_cases with hsame | ⟨answer, hstage, -, hcache⟩
          · exact .inl hsame
          · exact .inr ⟨k, q, answer, hq, hstage, hcache⟩

/-- Nothing is taken out of the map. -/
theorem entries_perform (resolve : Resolver ρ ι) (policy : OverflowPolicy) (r : Race ρ ι)
    (m : Move ρ) : r.cache.entries <+: (r.perform resolve policy m).cache.entries := by
  rcases cache_cases resolve policy r m with hsame | ⟨k, q, answer, -, -, hcache⟩
  · exact hsame ▸ List.prefix_refl _
  · rw [hcache]
    exact Cache.entries_insertIfAbsent _ _ _

theorem find?_perform (h : r.cache.find? name = some c) :
    (r.perform resolve policy m).cache.find? name = some c := by
  rcases cache_cases resolve policy r m with hsame | ⟨k, q, answer, -, -, hcache⟩
  · rw [hsame, h]
  · rw [hcache]
    exact Cache.find?_insertIfAbsent_of_some h

/-- A result which was given stays given. -/
theorem done_perform {result : Except CallError (Callable ι)} (hq : r.requests[k]? = some q)
    (hdone : q.stage = .done result) :
    (r.perform resolve policy m).requests[k]? = some q := by
  have hlt := (List.getElem?_eq_some_iff.1 hq).1
  cases m with
  | request caller name =>
      simp only [perform]
      rw [List.getElem?_append_left hlt, hq]
  | change f => exact hq
  | advance j =>
      cases hj : r.requests[j]? with
      | none => simpa only [perform, hj] using hq
      | some q' =>
          obtain ⟨stage, hrequests, hturns⟩ := perform_advance resolve policy hj
          rw [hrequests, List.getElem?_set]
          by_cases hjk : j = k
          · subst hjk
            rw [hq] at hj
            cases hj
            rw [hdone] at hturns
            rw [if_pos rfl, if_pos hlt, hturns.of_done.1, ← hdone]
          · rw [if_neg hjk, hq]

end Perform

end Race

end WasmCall.Exports
