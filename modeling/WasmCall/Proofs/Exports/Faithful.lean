import WasmCall.Proofs.Exports.History
import WasmCall.Stub

/-!
# Surfaces are faithful to their history

What a family of surfaces remembers is exactly what its own history says: for each name the callable
of the first request which succeeded.  `Sound` has this among the invariants of a run (`Run.sound`).

So a request is answered by the history of its family and, if that is silent, by the resolver
alone.  `Faithful` lists what this means for a family, and `Run.requests_faithful` says that it holds
in every run.
-/

namespace WasmCall.Surfaces

variable {ρ ι : Type} {resolve : Resolver ρ ι} {p : Holder ρ ι} {past : List (Step ρ ι)}
  {family : Nat} {name : String} {c : Callable ι} {f : Family ι}

/-- The invariant of a run.

* `held`: every surface belongs to a family which has begun.
* `created`: every family began with a surface of its policy.
* `numbered`, `given`: nothing has happened in a family which has not begun.
* `distinct`: no family remembers a name twice.
* `remembered`: what a family remembers for a name is what the first request in it gave.
* `once`: no family began twice, and the resolver has told no family about a name twice. -/
structure Sound (resolve : Resolver ρ ι) (past : List (Step ρ ι)) (p : Holder ρ ι) : Prop where
  held : ∀ family ∈ p.held, family < p.surfaces.families.length
  created : ∀ family f, p.surfaces.families[family]? = some f →
    ∃ step ∈ past, step.Creates family f.policy
  numbered : ∀ step ∈ past, ∀ family policy, step.Creates family policy →
    family < p.surfaces.families.length
  given : ∀ step ∈ past, ∀ family name c, step.Gives resolve family name c →
    family < p.surfaces.families.length
  distinct : ∀ (family : Nat) (f : Family ι), p.surfaces.families[family]? = some f →
    f.cache.Distinct
  remembered : ∀ (family : Nat) (f : Family ι), p.surfaces.families[family]? = some f →
    ∀ name c, f.cache.find? name = some c ↔ First resolve family name c past
  once : past.Pairwise (Step.Apart resolve)

theorem sound_start (resolve : Resolver ρ ι) (resolver : ρ) :
    Sound resolve [] ⟨ofResolver resolver, []⟩ :=
  ⟨by simp, by simp [ofResolver], by simp, by simp, by simp [ofResolver], by simp [ofResolver],
    .nil⟩

namespace Sound

/-- A family does not remember a name exactly if no request in it succeeded. -/
theorem find?_eq_none_iff (hs : Sound resolve past p)
    (hf : p.surfaces.families[family]? = some f) :
    f.cache.find? name = none ↔ ∀ step ∈ past, ∀ c, ¬ step.Gives resolve family name c := by
  constructor
  · intro hnone
    rcases exists_first_or_never resolve family name past with ⟨c, hc⟩ | hnever
    · rw [(hs.remembered family f hf name c).2 hc] at hnone
      cases hnone
    · exact hnever
  · intro hnever
    cases hfound : f.cache.find? name with
    | none => rfl
    | some c =>
        obtain ⟨step, hstep, hgives⟩ :=
          ((hs.remembered family f hf name c).1 hfound).exists_gives
        exact absurd hgives (hnever step hstep c)

/-- What a family remembers behind one more action. -/
theorem remembered_perform (hs : Sound resolve past p) (a : Action ρ)
    (hf : (p.perform resolve a).surfaces.families[family]? = some f) (name : String)
    (c : Callable ι) :
    f.cache.find? name = some c ↔ First resolve family name c (⟨p, a⟩ :: past) := by
  rw [first_cons_iff]
  rcases perform_families resolve p a hf with ⟨g, hg, hdevelops⟩ | ⟨hfamily, hcreates, hempty⟩
  · rw [hdevelops.found, hs.remembered family g hg, hs.find?_eq_none_iff hg]
  · -- Nothing was given in this family before, and its creation gave nothing either.
    rw [hempty, Cache.find?_empty]
    refine ⟨by simp, ?_⟩
    rintro (hfirst | ⟨-, hgives⟩)
    · obtain ⟨step, hstep, hgives⟩ := hfirst.exists_gives
      have hlt := hs.given step hstep family name c hgives
      omega
    · cases hcreates
      cases hgives

/-- The resolver is not asked about a name again behind a request which succeeded. -/
theorem not_gives_of_learns (hs : Sound resolve past p) {a : Action ρ}
    (h : Step.Learns resolve ⟨p, a⟩ family name) :
    ∀ step ∈ past, ∀ c, ¬ step.Gives resolve family name c := by
  cases h with
  | mk _ surface _ _ r hfamily hasked =>
      have hlt := hs.held family (List.mem_of_getElem? hfamily)
      have hf := List.getElem?_eq_getElem hlt
      rw [asked_of_family hf] at hasked
      split at hasked
      · rename_i hnone
        exact (hs.find?_eq_none_iff hf).1 hnone
      · simp at hasked

/-- Every action preserves the invariant. -/
theorem perform (hs : Sound resolve past p) (a : Action ρ) :
    Sound resolve (⟨p, a⟩ :: past) (p.perform resolve a) where
  held := by
    intro family hfamily
    have hle := length_families_le resolve p a
    rcases mem_held_perform hfamily with hold | ⟨rfl, policy, rfl⟩
    · exact Nat.lt_of_lt_of_le (hs.held family hold) hle
    · simp [Holder.perform, create]
  created := by
    intro family f' hf'
    rcases perform_families resolve p a hf' with ⟨f, hf, hdevelops⟩ | ⟨-, hcreates, -⟩
    · obtain ⟨step, hstep, hcreates⟩ := hs.created family f hf
      rw [hdevelops.policy]
      exact ⟨step, List.mem_cons_of_mem _ hstep, hcreates⟩
    · exact ⟨⟨p, a⟩, List.mem_cons_self, hcreates⟩
  -- Of the facts about all steps, the new one is settled by itself, and the others keep what they
  -- had.
  numbered := by
    intro step hstep family policy hcreates
    rcases List.mem_cons.1 hstep with rfl | hpast
    · cases hcreates
      simp [Holder.perform, create]
    · have hold := hs.numbered step hpast family policy hcreates
      exact Nat.lt_of_lt_of_le hold (length_families_le resolve p a)
  given := by
    intro step hstep family name c hgives
    have hle := length_families_le resolve p a
    rcases List.mem_cons.1 hstep with rfl | hpast
    · exact Nat.lt_of_lt_of_le hgives.lt_length hle
    · exact Nat.lt_of_lt_of_le (hs.given step hpast family name c hgives) hle
  distinct := by
    intro family f' hf'
    rcases perform_families resolve p a hf' with ⟨f, hf, hdevelops⟩ | ⟨-, -, hempty⟩
    · exact hdevelops.distinct (hs.distinct family f hf)
    · rw [hempty]
      exact Cache.distinct_empty
  remembered := fun family f hf => hs.remembered_perform a hf
  once := by
    refine List.pairwise_cons.2 ⟨?_, hs.once⟩
    intro earlier hearlier
    constructor
    · intro family policy policy' hcreates hcreates'
      have hlt := hs.numbered earlier hearlier family policy' hcreates'
      cases hcreates
      exact Nat.lt_irrefl _ hlt
    · intro family name hlearns hlearns'
      obtain ⟨c, hgives⟩ := hlearns'.exists_gives
      exact hs.not_gives_of_learns hlearns earlier hearlier c hgives

end Sound

/-- The invariant holds of every run. -/
theorem Run.sound (hrun : Run resolve past p) : Sound resolve past p := by
  induction hrun with
  | start resolver => exact sound_start resolve resolver
  | step _ a ih => exact ih.perform a

/-- What the surfaces of a family do behind some steps.

* `remembered`: a name for which a request succeeded gives what the first of them gave, and the
  resolver is not asked.
* `resolved`: any other name gives what the resolver answers, which is asked once.
* `failed`: a failure leaves no family with anything more to remember.
* `confined`: a request makes no difference to another family, except through the resolver.
* `counted`: as many callables are shown in diagnostics as there are names which succeeded.
* `observed`: that the questions are written down makes no difference to a request. -/
structure Faithful (resolve : Resolver ρ ι) (past : List (Step ρ ι)) (s : Surfaces ρ ι)
    (family : Nat) (policy : OverflowPolicy) : Prop where
  remembered : ∀ name c, First resolve family name c past →
    (s.getFunction resolve family name).result = .ok c ∧ s.asked resolve family name = []
  resolved : ∀ name, (∀ step ∈ past, ∀ c, ¬ step.Gives resolve family name c) →
    (s.getFunction resolve family name).result =
        (resolve name s.resolver).result.map (Exports.build policy name) ∧
      s.asked resolve family name = [⟨name, (resolve name s.resolver).result⟩]
  failed : ∀ name e, (s.getFunction resolve family name).result = .error e →
    (s.getFunction resolve family name).state.families = s.families
  confined : ∀ name other name' (resolver : ρ), other ≠ family →
    (((s.getFunction resolve family name).state.change fun _ => resolver).getFunction
        resolve other name').result =
      ((s.change fun _ => resolver).getFunction resolve other name').result
  counted : ∃ (f : Family ι) (names : List String), s.families[family]? = some f ∧ names.Nodup ∧
    (∀ name, name ∈ names ↔ ∃ step ∈ past, ∃ c, step.Gives resolve family name c) ∧
    Exports.debug f.policy f.cache =
      "Exports \x7b policy: " ++ policy.label ++ s!", cached: {names.length}, .. \x7d"
  observed : ∀ name, (s.recorded.getFunction (recording resolve) family name).mapState forget =
    s.getFunction resolve family name

namespace Sound

/-- The first request which succeeded decides all those behind it. -/
theorem getFunction_of_first (hs : Sound resolve past p)
    (hf : p.surfaces.families[family]? = some f) (hfirst : First resolve family name c past) :
    (p.surfaces.getFunction resolve family name).result = .ok c ∧
      p.surfaces.asked resolve family name = [] := by
  have hfound := (hs.remembered family f hf name c).2 hfirst
  rw [getFunction_of_family hf, Exports.getFunction_of_cached hfound, asked_of_family hf, hfound]
  exact ⟨rfl, rfl⟩

/-- Where no request has succeeded, the resolver decides. -/
theorem getFunction_of_never (hs : Sound resolve past p)
    (hf : p.surfaces.families[family]? = some f)
    (hnever : ∀ step ∈ past, ∀ c, ¬ step.Gives resolve family name c) :
    (p.surfaces.getFunction resolve family name).result =
        (resolve name p.surfaces.resolver).result.map (Exports.build f.policy name) ∧
      p.surfaces.asked resolve family name = [⟨name, (resolve name p.surfaces.resolver).result⟩] := by
  have hfound := (hs.find?_eq_none_iff hf).2 hnever
  rw [asked_of_family hf, if_pos hfound, getFunction_of_family hf]
  cases hresolve : (resolve name p.surfaces.resolver).result with
  | error e =>
      rw [Exports.getFunction_of_error hfound hresolve]
      exact ⟨rfl, rfl⟩
  | ok r =>
      rw [Exports.getFunction_of_ok hfound hresolve]
      exact ⟨rfl, rfl⟩

/-- The names which a family remembers are those for which a request succeeded. -/
theorem mem_names_iff (hs : Sound resolve past p) (hf : p.surfaces.families[family]? = some f) :
    name ∈ f.cache.names ↔ ∃ step ∈ past, ∃ c, step.Gives resolve family name c := by
  rw [Cache.mem_names_iff]
  constructor
  · rintro ⟨c, hc⟩
    obtain ⟨step, hstep, hgives⟩ := ((hs.remembered family f hf name c).1 hc).exists_gives
    exact ⟨step, hstep, c, hgives⟩
  · rintro ⟨step, hstep, c, hgives⟩
    cases hfound : f.cache.find? name with
    | some d => exact ⟨d, rfl⟩
    | none => exact absurd hgives ((hs.find?_eq_none_iff hf).1 hfound step hstep c)

/-- The callables of a family are counted by the names for which a request succeeded. -/
theorem counted (hs : Sound resolve past p) (hf : p.surfaces.families[family]? = some f) :
    ∃ names : List String, names.Nodup ∧
      (∀ name, name ∈ names ↔ ∃ step ∈ past, ∃ c, step.Gives resolve family name c) ∧
      f.cache.size = names.length := by
  refine ⟨f.cache.names, hs.distinct family f hf, ?_, f.cache.length_names.symm⟩
  intro name
  exact hs.mem_names_iff hf

theorem faithful (hs : Sound resolve past p) (hf : p.surfaces.families[family]? = some f) :
    Faithful resolve past p.surfaces family f.policy where
  remembered := fun name c hfirst => hs.getFunction_of_first hf hfirst
  resolved := fun name hnever => hs.getFunction_of_never hf hnever
  failed := fun name e he => families_of_error he
  confined := fun name other name' resolver hother => result_getFunction_other hother
  counted := by
    obtain ⟨names, hdistinct, hnames, hsize⟩ := hs.counted hf
    refine ⟨f, names, hf, hdistinct, hnames, ?_⟩
    unfold Exports.debug
    rw [hsize]
  observed := fun name => getFunction_recording resolve p.surfaces family name

end Sound

/-- In every run, a surface gives what its family gave first, or else what the resolver answers; no
family begins twice, and none is told about a name twice. -/
theorem Run.requests_faithful (hrun : Run resolve past p) :
    past.Pairwise (Step.Apart resolve) ∧
      ∀ family ∈ p.held, ∃ policy, (∃ step ∈ past, step.Creates family policy) ∧
        Faithful resolve past p.surfaces family policy := by
  have hs := hrun.sound
  refine ⟨hs.once, ?_⟩
  intro family hheld
  have hf := List.getElem?_eq_getElem (hs.held family hheld)
  exact ⟨_, hs.created family _ hf, hs.faithful hf⟩

section Replaced

/-- A name is defined and requested, and then defined anew. -/
def replacedActions : List (Action Registry) :=
  [.change (·.define "f" (.ok ⟨⟨[], []⟩, .echo⟩)), .create .reject, .request 0 "f", .copy 0,
    .change (·.define "f" (.ok ⟨⟨[], []⟩, .reverse⟩))]

/-- Take one more action. -/
def follow (state : List (Step Registry Stub) × Holder Registry Stub) (a : Action Registry) :
    List (Step Registry Stub) × Holder Registry Stub :=
  (⟨state.2, a⟩ :: state.1, state.2.perform Registry.resolve a)

/-- These actions, as steps, and the program behind them. -/
def replacedState : List (Step Registry Stub) × Holder Registry Stub :=
  replacedActions.foldl follow ([], ⟨ofResolver .empty, []⟩)

theorem run_follow (as : List (Action Registry))
    {state : List (Step Registry Stub) × Holder Registry Stub}
    (hrun : Run Registry.resolve state.1 state.2) :
    Run Registry.resolve (as.foldl follow state).1 (as.foldl follow state).2 := by
  induction as generalizing state with
  | nil => exact hrun
  | cons a as ih => exact ih (hrun.step a)

/-- A copy of the surface still gives the function as it was defined at first. -/
theorem faithful_replaced :
    Run Registry.resolve replacedState.1 replacedState.2 ∧
      (replacedState.2.surfaces.getFunction Registry.resolve 0 "f").result =
        .ok ⟨"f", ⟨[], []⟩, .reject, .echo⟩ := by
  have hrun : Run Registry.resolve replacedState.1 replacedState.2 :=
    run_follow replacedActions (.start Registry.empty)
  obtain ⟨-, hsurfaces⟩ := hrun.requests_faithful
  obtain ⟨policy, -, hfaithful⟩ := hsurfaces 0 (by decide)
  have hfirst : First Registry.resolve 0 "f" ⟨"f", ⟨[], []⟩, .reject, .echo⟩ replacedState.1 := by
    refine .behind _ _ (.behind _ _ (.here _ _ (.mk _ 0 0 "f" _ rfl rfl) ?_))
    intro step hstep c hgives
    simp only [follow, List.mem_cons, List.not_mem_nil, or_false] at hstep
    rcases hstep with rfl | rfl <;> cases hgives
  exact ⟨hrun, (hfaithful.remembered "f" _ hfirst).1⟩

end Replaced

end WasmCall.Surfaces
