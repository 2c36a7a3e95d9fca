import WasmCall.Proofs.Exports.Race
import WasmCall.Stub

/-!
# Racing lookups agree

However the steps of many lookups interleave, those which succeed for one name give one callable.
The reason is that whatever a request gives is what the map holds for the name, and the map is only
ever added to.

* `Sound`: the invariant of all races (`Run.sound`), with one lemma for what a move makes of each of
  its parts.
* `Agreeing`: what the callers can rely on, and `Run.lookups_agree`: they can in every race.

In the race at the end, two callers get different answers of the resolver.
-/

namespace WasmCall.Exports.Race

variable {ρ ι : Type} {resolve : Resolver ρ ι} {policy : OverflowPolicy} {past : List (Step ρ ι)}
  {r : Race ρ ι} {m : Move ρ} {k : Nat} {q q' : Request ι} {name : String} {c : Callable ι}

/-- The invariant of a race.

* `distinct`: the map holds no name twice.
* `kept`: it still holds what it held at any time before.
* `entry`: a request which succeeded gave what it holds for the name.
* `origin`: it holds only what was built out of an answer.
* `pending`: an answer which a request carries was given to this request.
* `settled`: a result which a request gave at any time before is still its result.
* `failed`: an error of a request was an answer to this request.
* `quiet`: a request which has not succeeded has not touched the map. -/
structure Sound (resolve : Resolver ρ ι) (policy : OverflowPolicy) (past : List (Step ρ ι))
    (r : Race ρ ι) : Prop where
  distinct : r.cache.Distinct
  kept : ∀ step ∈ past, step.before.cache.entries <+: r.cache.entries
  entry : ∀ (k : Nat) (q : Request ι), r.requests[k]? = some q → ∀ c, q.stage = .done (.ok c) →
    r.cache.find? q.name = some c
  origin : ∀ name c, r.cache.find? name = some c → ∃ answer, c = build policy name answer ∧
    ∃ step ∈ past, ∃ k, step.Asks resolve k name (.ok answer)
  pending : ∀ (k : Nat) (q : Request ι), r.requests[k]? = some q →
    ∀ answer, q.stage = .resolved answer → ∃ step ∈ past, step.Asks resolve k q.name (.ok answer)
  settled : ∀ step ∈ past, ∀ (k : Nat) (q : Request ι), step.before.requests[k]? = some q →
    ∀ result, q.stage = .done result → r.requests[k]? = some q
  failed : ∀ (k : Nat) (q : Request ι), r.requests[k]? = some q →
    ∀ e, q.stage = .done (.error e) → ∃ step ∈ past, step.Asks resolve k q.name (.error e)
  quiet : ∀ k : Nat, (∀ q, r.requests[k]? = some q → ∀ c, q.stage ≠ .done (.ok c)) →
    ∀ step ∈ past, step.move = .advance k →
      (step.before.perform resolve policy step.move).cache = step.before.cache

theorem sound_start (resolve : Resolver ρ ι) (policy : OverflowPolicy) (resolver : ρ) :
    Sound resolve policy [] ⟨resolver, .empty, []⟩ :=
  ⟨Cache.distinct_empty, by simp, by simp, by simp, by simp, by simp, by simp, by simp⟩

namespace Sound

/-- What was said of a step in the past can be said behind one more. -/
theorem exists_cons {s : Step ρ ι} {P : Step ρ ι → Prop} (h : ∃ step ∈ past, P step) :
    ∃ step ∈ s :: past, P step := by
  obtain ⟨step, hstep, hp⟩ := h
  exact ⟨step, List.mem_cons_of_mem _ hstep, hp⟩

theorem distinct_perform (hs : Sound resolve policy past r) (m : Move ρ) :
    (r.perform resolve policy m).cache.Distinct := by
  rcases cache_cases resolve policy r m with hsame | ⟨k, q, answer, -, -, hcache⟩
  · rw [hsame]
    exact hs.distinct
  · rw [hcache]
    exact hs.distinct.insertIfAbsent _ _

theorem entry_perform (hs : Sound resolve policy past r)
    (hq' : (r.perform resolve policy m).requests[k]? = some q') (hdone : q'.stage = .done (.ok c)) :
    (r.perform resolve policy m).cache.find? q'.name = some c := by
  rcases request_cases hq' with ⟨-, hq⟩ | ⟨-, hstage⟩ | ⟨q, -, hq, hname, hturns⟩
  · exact find?_perform (hs.entry k q' hq c hdone)
  · rw [hstage] at hdone
    cases hdone
  · rw [hdone] at hturns
    rw [hname]
    exact hturns.find?_of_done (hs.entry k q hq c)

theorem pending_perform (hs : Sound resolve policy past r)
    (hq' : (r.perform resolve policy m).requests[k]? = some q') {answer : Resolved ι}
    (hstage : q'.stage = .resolved answer) :
    ∃ step ∈ ⟨r, m⟩ :: past, step.Asks resolve k q'.name (.ok answer) := by
  rcases request_cases hq' with ⟨-, hq⟩ | ⟨-, hwanted⟩ | ⟨q, rfl, hq, hname, hturns⟩
  · exact exists_cons (hs.pending k q' hq answer hstage)
  · rw [hwanted] at hstage
    cases hstage
  · -- The answer was given in this very step.
    rw [hstage] at hturns
    obtain ⟨hmissed, hanswer⟩ := hturns.resolved_cases
    rw [hname]
    exact ⟨_, List.mem_cons_self, .mk r k q hq hmissed _ hanswer⟩

theorem failed_perform (hs : Sound resolve policy past r)
    (hq' : (r.perform resolve policy m).requests[k]? = some q') {e : CallError}
    (hstage : q'.stage = .done (.error e)) :
    ∃ step ∈ ⟨r, m⟩ :: past, step.Asks resolve k q'.name (.error e) := by
  rcases request_cases hq' with ⟨-, hq⟩ | ⟨-, hwanted⟩ | ⟨q, rfl, hq, hname, hturns⟩
  · exact exists_cons (hs.failed k q' hq e hstage)
  · rw [hwanted] at hstage
    cases hstage
  · rw [hstage] at hturns
    rw [hname]
    rcases hturns.error_cases with hbefore | ⟨hmissed, hanswer⟩
    · exact exists_cons (hs.failed k q hq e hbefore)
    · exact ⟨_, List.mem_cons_self, .mk r k q hq hmissed _ hanswer⟩

theorem origin_perform (hs : Sound resolve policy past r)
    (hfound : (r.perform resolve policy m).cache.find? name = some c) :
    ∃ answer, c = build policy name answer ∧
      ∃ step ∈ ⟨r, m⟩ :: past, ∃ k, step.Asks resolve k name (.ok answer) := by
  have hold : r.cache.find? name = some c → ∃ answer, c = build policy name answer ∧
      ∃ step ∈ ⟨r, m⟩ :: past, ∃ k, step.Asks resolve k name (.ok answer) := by
    intro hbefore
    obtain ⟨answer, hc, hasked⟩ := hs.origin name c hbefore
    exact ⟨answer, hc, exists_cons hasked⟩
  rcases cache_cases resolve policy r m with hsame | ⟨k, q, answer, hq, hstage, hcache⟩
  · rw [hsame] at hfound
    exact hold hfound
  · rw [hcache] at hfound
    rcases Cache.find?_of_insertIfAbsent hfound with hbefore | ⟨rfl, hc⟩
    · exact hold hbefore
    · obtain ⟨step, hstep, hasks⟩ := hs.pending k q hq answer hstage
      exact ⟨answer, hc, step, List.mem_cons_of_mem _ hstep, k, hasks⟩

/-- A request which has not succeeded behind a move had not succeeded before, and has not touched
the map in between. -/
theorem quiet_perform (hs : Sound resolve policy past r) (m : Move ρ)
    (hopen : ∀ q, (r.perform resolve policy m).requests[k]? = some q → ∀ c, q.stage ≠ .done (.ok c)) :
    ∀ step ∈ ⟨r, m⟩ :: past, step.move = .advance k →
      (step.before.perform resolve policy step.move).cache = step.before.cache := by
  intro step hstep hmove
  rcases List.mem_cons.1 hstep with rfl | hpast
  · obtain rfl : m = .advance k := hmove
    cases hq : r.requests[k]? with
    | none => simp only [perform, hq]
    | some q =>
        obtain ⟨stage, hrequests, hturns⟩ := perform_advance resolve policy hq
        have hlt := (List.getElem?_eq_some_iff.1 hq).1
        rcases hturns.cache_cases with hsame | ⟨answer, -, hdone, -⟩
        · exact hsame
        · refine absurd hdone (hopen { q with stage := stage } ?_ _)
          rw [hrequests, List.getElem?_set_self hlt]
  · refine hs.quiet k ?_ step hpast hmove
    intro q hq c hdone
    exact hopen q (done_perform hq hdone) c hdone

/-- Every move preserves the invariant. -/
theorem perform (hs : Sound resolve policy past r) (m : Move ρ) :
    Sound resolve policy (⟨r, m⟩ :: past) (r.perform resolve policy m) where
  distinct := hs.distinct_perform m
  kept := by
    intro step hstep
    have hgrows := entries_perform resolve policy r m
    rcases List.mem_cons.1 hstep with rfl | hpast
    · exact hgrows
    · exact (hs.kept step hpast).trans hgrows
  entry := fun k q hq c hdone => hs.entry_perform hq hdone
  origin := fun name c hfound => hs.origin_perform hfound
  pending := fun k q hq answer hstage => hs.pending_perform hq hstage
  settled := by
    intro step hstep k q hq result hdone
    rcases List.mem_cons.1 hstep with rfl | hpast
    · exact done_perform hq hdone
    · exact done_perform (hs.settled step hpast k q hq result hdone) hdone
  failed := fun k q hq e hstage => hs.failed_perform hq hstage
  quiet := fun k hopen => hs.quiet_perform m hopen

end Sound

/-- The invariant holds of every race. -/
theorem Run.sound (hrun : Run resolve policy past r) : Sound resolve policy past r := by
  induction hrun with
  | start resolver => exact sound_start resolve policy resolver
  | step _ m _ ih => exact ih.perform m

/-- What callers on a surface and its copies can rely on.

* `distinct`: the map holds no name twice.
* `kept`: what it held once it holds from then on, in the same place.
* `origin`: it holds only what was built out of an answer for the name.
* `entry`: a request which succeeded gave what the map holds for the name.
* `agree`: two requests which succeeded for the same name gave the same callable.
* `settled`: what a request gave at any time is what it gives.
* `failed`: a request which failed gave what the resolver answered to it, and has not touched the
  map. -/
structure Agreeing (resolve : Resolver ρ ι) (policy : OverflowPolicy) (past : List (Step ρ ι))
    (r : Race ρ ι) : Prop where
  distinct : r.cache.Distinct
  kept : ∀ step ∈ past, step.before.cache.entries <+: r.cache.entries
  origin : ∀ name c, r.cache.find? name = some c → ∃ answer, c = build policy name answer ∧
    ∃ step ∈ past, ∃ k, step.Asks resolve k name (.ok answer)
  entry : ∀ q ∈ r.requests, ∀ c, q.stage = .done (.ok c) → r.cache.find? q.name = some c
  agree : ∀ q ∈ r.requests, ∀ q' ∈ r.requests, q.name = q'.name → ∀ c c',
    q.stage = .done (.ok c) → q'.stage = .done (.ok c') → c = c'
  settled : ∀ step ∈ past, ∀ (k : Nat) (q : Request ι), step.before.requests[k]? = some q →
    ∀ result, q.stage = .done result → r.requests[k]? = some q
  failed : ∀ (k : Nat) (q : Request ι), r.requests[k]? = some q →
    ∀ e, q.stage = .done (.error e) → (∃ step ∈ past, step.Asks resolve k q.name (.error e)) ∧
      ∀ step ∈ past, step.move = .advance k →
        (step.before.perform resolve policy step.move).cache = step.before.cache

theorem Sound.agreeing (hs : Sound resolve policy past r) : Agreeing resolve policy past r := by
  have hentry : ∀ q ∈ r.requests, ∀ c, q.stage = .done (.ok c) →
      r.cache.find? q.name = some c := by
    intro q hq c hdone
    obtain ⟨k, hk⟩ := List.getElem?_of_mem hq
    exact hs.entry k q hk c hdone
  refine ⟨hs.distinct, hs.kept, hs.origin, hentry, ?_, hs.settled, ?_⟩
  · intro q hq q' hq' hname c c' hdone hdone'
    have hc := hentry q hq c hdone
    rw [hname, hentry q' hq' c' hdone'] at hc
    exact (Option.some.inj hc).symm
  · intro k q hq e hdone
    refine ⟨hs.failed k q hq e hdone, hs.quiet k ?_⟩
    intro q' hq' c hdone'
    rw [hq] at hq'
    cases hq'
    rw [hdone] at hdone'
    cases hdone'

/-- A lookup is three steps, and however the steps of many lookups interleave, those which succeed
agree on every name. -/
theorem Run.lookups_agree (hrun : Run resolve policy past r) :
    (∀ name state cache, advances resolve policy name 3 (state, cache) .wanted =
      ⟨.done (getFunction resolve policy name state cache).result,
        (getFunction resolve policy name state cache).state,
        (getFunction resolve policy name state cache).events⟩) ∧
      Agreeing resolve policy past r :=
  ⟨advances_wanted resolve policy, hrun.sound.agreeing⟩

section Overtaken

/-- Two callers miss a name, one behind the other, and get different answers.  The one which asked
later inserts first. -/
def overtakenMoves : List (Move Registry) :=
  [.change (·.define "f" (.ok ⟨⟨[], []⟩, .echo⟩)), .request 0 "f", .request 1 "f",
    .advance 0, .advance 1, .advance 0, .change (·.define "f" (.ok ⟨⟨[], []⟩, .reverse⟩)),
    .advance 1, .advance 1, .advance 0]

/-- Take one more step. -/
def follow (state : List (Step Registry Stub) × Race Registry Stub) (m : Move Registry) :
    List (Step Registry Stub) × Race Registry Stub :=
  (⟨state.2, m⟩ :: state.1, state.2.perform Registry.resolve .reject m)

/-- The first so many of these moves, as steps, and the race behind them. -/
def overtakenState (n : Nat) : List (Step Registry Stub) × Race Registry Stub :=
  (overtakenMoves.take n).foldl follow ([], ⟨Registry.empty, .empty, []⟩)

/-- All of these moves are allowed, one behind the other. -/
theorem run_overtaken :
    Run Registry.resolve .reject (overtakenState 10).1 (overtakenState 10).2 := by
  have hempty : Run Registry.resolve .reject (overtakenState 0).1 (overtakenState 0).2 :=
    .start Registry.empty
  have hdefined := hempty.step (.change (·.define "f" (.ok ⟨⟨[], []⟩, .echo⟩))) (.change _)
  have hfirst := hdefined.step (.request 0 "f") (.request 0 "f" nofun)
  have hsecond := hfirst.step (.request 1 "f") (.request 1 "f" (by
    intro q hq hcaller
    change q ∈ [⟨0, "f", .wanted⟩] at hq
    obtain rfl := List.mem_singleton.1 hq
    cases hcaller))
  have hmissed := hsecond.step (.advance 0) (.advance 0 _ rfl nofun)
  have hmissed' := hmissed.step (.advance 1) (.advance 1 _ rfl nofun)
  have hanswered := hmissed'.step (.advance 0) (.advance 0 _ rfl nofun)
  have hredefined := hanswered.step (.change (·.define "f" (.ok ⟨⟨[], []⟩, .reverse⟩))) (.change _)
  have hanswered' := hredefined.step (.advance 1) (.advance 1 _ rfl nofun)
  have hinserted := hanswered'.step (.advance 1) (.advance 1 _ rfl nofun)
  exact hinserted.step (.advance 0) (.advance 0 _ rfl nofun)

/-- The caller which inserts last gets what the other one has inserted. -/
theorem agree_overtaken :
    ∃ q q' c c', (overtakenState 10).2.requests = [q, q'] ∧ q.stage = .done (.ok c) ∧
      q'.stage = .done (.ok c') ∧ c = c' := by
  obtain ⟨-, hagreeing⟩ := run_overtaken.lookups_agree
  refine ⟨_, _, _, _, rfl, rfl, rfl, ?_⟩
  exact hagreeing.agree _ List.mem_cons_self _ (List.mem_cons_of_mem _ List.mem_cons_self) rfl _ _
    rfl rfl

end Overtaken

end WasmCall.Exports.Race
